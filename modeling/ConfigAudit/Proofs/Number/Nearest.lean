import ConfigAudit.Number.Nearest
import Mathlib.Algebra.Order.Field.Power
import Mathlib.Data.Nat.Cast.Order.Field
import Mathlib.Data.Rat.Cast.Order
import Mathlib.Tactic.Linarith
import Mathlib.Tactic.NormNum
import Mathlib.Tactic.Ring

/-! Rounding to the nearest integer and to the nearest binary64 number, as numbers. The nearest
integer is at most one half away and keeps the order, so it does not depend on how a ratio is
written. A number with 53 significant bits is a relative `2 ^ -53` away, and integers below
`2 ^ 53` are themselves. -/
namespace ConfigAudit.Ratio

/-- The number that a ratio stands for. -/
def value (r : Ratio) : ℚ := r.num / r.den

/-- The nearest integer is at most one half away, and even if it is just that far away. -/
theorem nearest_bounds {r : Ratio} (h : 0 < r.den) :
    2 * (r.nearest * r.den) ≤ 2 * r.num + r.den ∧ 2 * r.num ≤ 2 * (r.nearest * r.den) + r.den ∧
      (2 * (r.nearest * r.den) = 2 * r.num + r.den ∨ 2 * r.num = 2 * (r.nearest * r.den) + r.den →
        r.nearest % 2 = 0) := by
  have hdivided := Nat.div_add_mod r.num r.den
  have hrest := Nat.mod_lt r.num h
  have hdown : r.num / r.den * r.den = r.den * (r.num / r.den) := Nat.mul_comm _ _
  have hup : (r.num / r.den + 1) * r.den = r.den * (r.num / r.den) + r.den := by
    rw [Nat.add_mul, hdown, Nat.one_mul]
  unfold nearest
  dsimp only
  split_ifs with hbelow habove
  · rw [hdown]
    omega
  · rw [hup]
    omega
  · -- The middle between two integers.
    rcases Nat.mod_two_eq_zero_or_one (r.num / r.den) with heven | hodd
    · rw [heven, Nat.add_zero, hdown]
      omega
    · rw [hodd, hup]
      omega

section Positive

variable {r s : Ratio} (hr : 0 < r.den) (hs : 0 < s.den)
include hr

theorem value_mul_den : r.value * r.den = r.num := by
  have hden : (r.den : ℚ) ≠ 0 := by exact_mod_cast hr.ne'
  rw [value, div_mul_cancel₀ _ hden]

theorem num_eq_of_value_eq {n : ℕ} (h : r.value = n) : r.num = n * r.den := by
  have hcast := value_mul_den hr
  rw [h] at hcast
  exact_mod_cast hcast.symm

/-- The whole part of a ratio. -/
theorem num_div_den_eq {n : ℕ} (hle : (n : ℚ) ≤ r.value) (hlt : r.value < n + 1) :
    r.num / r.den = n := by
  have hden : (0 : ℚ) < r.den := by exact_mod_cast hr
  have hlow := mul_le_mul_of_nonneg_right hle hden.le
  have hhigh := mul_lt_mul_of_pos_right hlt hden
  rw [value_mul_den hr] at hlow hhigh
  exact Nat.div_eq_of_lt_le (by exact_mod_cast hlow) (by exact_mod_cast hhigh)

theorem nearest_le_value_add : (r.nearest : ℚ) ≤ r.value + 1 / 2 := by
  have hbound : (2 * (r.nearest * r.den) : ℚ) ≤ 2 * r.num + r.den := by
    exact_mod_cast (nearest_bounds hr).1
  have hden : (0 : ℚ) < r.den := by exact_mod_cast hr
  rw [← value_mul_den hr] at hbound
  exact le_of_mul_le_mul_right (by linarith) hden

theorem value_le_nearest_add : r.value ≤ r.nearest + 1 / 2 := by
  have hbound : (2 * r.num : ℚ) ≤ 2 * (r.nearest * r.den) + r.den := by
    exact_mod_cast (nearest_bounds hr).2.1
  have hden : (0 : ℚ) < r.den := by exact_mod_cast hr
  rw [← value_mul_den hr] at hbound
  exact le_of_mul_le_mul_right (by linarith) hden

theorem nearest_error : |(r.nearest : ℚ) - r.value| ≤ 1 / 2 := by
  rw [abs_sub_le_iff]
  constructor
  · linarith [nearest_le_value_add hr]
  · linarith [value_le_nearest_add hr]

theorem nearest_even_of_above (h : (r.nearest : ℚ) = r.value + 1 / 2) : r.nearest % 2 = 0 := by
  refine (nearest_bounds hr).2.2 (.inl ?_)
  have hvalue := value_mul_den hr
  have heq : (2 * (r.nearest * r.den) : ℚ) = 2 * r.num + r.den := by
    rw [← hvalue, h]
    ring
  exact_mod_cast heq

theorem nearest_even_of_below (h : r.value = r.nearest + 1 / 2) : r.nearest % 2 = 0 := by
  refine (nearest_bounds hr).2.2 (.inr ?_)
  have hvalue := value_mul_den hr
  have heq : (2 * r.num : ℚ) = 2 * (r.nearest * r.den) + r.den := by
    rw [← hvalue, h]
    ring
  exact_mod_cast heq

/-- An integer less than one half away is the nearest one. -/
theorem nearest_eq_of_lt {k : ℕ} (h : |r.value - k| < 1 / 2) : r.nearest = k := by
  rw [abs_sub_lt_iff] at h
  have hbelow : (r.nearest : ℚ) < k + 1 := by linarith [nearest_le_value_add hr]
  have habove : (k : ℚ) < r.nearest + 1 := by linarith [value_le_nearest_add hr]
  have hle : r.nearest < k + 1 := by exact_mod_cast hbelow
  have hge : k < r.nearest + 1 := by exact_mod_cast habove
  omega

theorem nearest_le {k : ℕ} (h : r.value ≤ k) : r.nearest ≤ k := by
  have hbelow : (r.nearest : ℚ) < k + 1 := by linarith [nearest_le_value_add hr]
  exact Nat.lt_succ_iff.mp (by exact_mod_cast hbelow)

theorem le_nearest {k : ℕ} (h : (k : ℚ) ≤ r.value) : k ≤ r.nearest := by
  have habove : (k : ℚ) < r.nearest + 1 := by linarith [value_le_nearest_add hr]
  exact Nat.lt_succ_iff.mp (by exact_mod_cast habove)

/-- An even integer is reached from below as soon as it is not more than one half away. -/
theorem nearest_eq_iff_of_even {k : ℕ} (heven : k % 2 = 0) (h : r.value ≤ k) :
    r.nearest = k ↔ (k : ℚ) - 1 / 2 ≤ r.value := by
  constructor
  · rintro rfl
    linarith [nearest_le_value_add hr]
  · intro hclose
    by_contra hne
    have hle := nearest_le hr h
    have hnext : r.nearest + 1 ≤ k := by omega
    have hcast : (r.nearest : ℚ) + 1 ≤ k := by exact_mod_cast hnext
    have hvalue := value_le_nearest_add hr
    have hodd := nearest_even_of_below hr (by linarith)
    have hneighbours : (r.nearest : ℚ) + 1 = k := by linarith
    have hsucc : r.nearest + 1 = k := by exact_mod_cast hneighbours
    omega

include hs

theorem nearest_mono (h : r.value ≤ s.value) : r.nearest ≤ s.nearest := by
  by_contra hlt
  have hnext : s.nearest + 1 ≤ r.nearest := by omega
  have hcast : (s.nearest : ℚ) + 1 ≤ r.nearest := by exact_mod_cast hnext
  have hr' := nearest_le_value_add hr
  have hs' := value_le_nearest_add hs
  -- Both are one half away from one number, and so both are even, though neighbours.
  have habove : (r.nearest : ℚ) = r.value + 1 / 2 := by linarith
  have hbelow : s.value = s.nearest + 1 / 2 := by linarith
  have hneighbours : (r.nearest : ℚ) = s.nearest + 1 := by linarith
  have hsucc : r.nearest = s.nearest + 1 := by exact_mod_cast hneighbours
  have hreven := nearest_even_of_above hr habove
  have hseven := nearest_even_of_below hs hbelow
  omega

theorem nearest_congr (h : r.value = s.value) : r.nearest = s.nearest :=
  Nat.le_antisymm (nearest_mono hr hs h.le) (nearest_mono hs hr h.ge)

end Positive

theorem scale_den_pos {base : ℕ} (hbase : 0 < base) {r : Ratio} (hr : 0 < r.den) (e : ℤ) :
    0 < (r.scale base e).den := by
  cases e with
  | ofNat e => exact hr
  | negSucc e => exact Nat.mul_pos hr (Nat.pow_pos hbase)

theorem scale_value (base : ℕ) (r : Ratio) (e : ℤ) :
    (r.scale base e).value = r.value * (base : ℚ) ^ e := by
  cases e with
  | ofNat e =>
    simp only [scale, value, Nat.pow_eq, Nat.cast_mul, Nat.cast_pow, Int.ofNat_eq_natCast,
      zpow_natCast]
    ring
  | negSucc e =>
    simp only [scale, value, Nat.pow_eq, Nat.cast_mul, Nat.cast_pow, zpow_negSucc]
    rw [div_mul_eq_div_div, div_eq_mul_inv (_ / _)]

section Binary

/-- The power of two that brings a ratio to 53 binary places in front of its point. -/
def binaryScale (r : Ratio) : ℤ := 52 - Nat.log2 (r.num / r.den)

theorem toBinary_den_pos (r : Ratio) : 0 < r.toBinary.den := scale_den_pos two_pos one_pos _

theorem toBinary_value (r : Ratio) :
    r.toBinary.value = (r.scale 2 r.binaryScale).nearest * (2 : ℚ) ^ (-r.binaryScale) := by
  have hinteger : (⟨(r.scale 2 r.binaryScale).nearest, 1⟩ : Ratio).value =
      (r.scale 2 r.binaryScale).nearest := by
    simp only [value, Nat.cast_one, div_one]
  rw [← hinteger]
  exact scale_value 2 _ _

theorem value_eq_scale_mul (r : Ratio) :
    r.value = (r.scale 2 r.binaryScale).value * (2 : ℚ) ^ (-r.binaryScale) := by
  rw [scale_value, Nat.cast_ofNat, mul_assoc, ← zpow_add₀ two_ne_zero, add_neg_cancel,
    zpow_zero, mul_one]

variable {r : Ratio} (hr : 0 < r.den)
include hr

/-- The unit in the last place is a relative `2 ^ -52` at most. -/
theorem two_zpow_neg_binaryScale_le (hone : r.den ≤ r.num) :
    (2 : ℚ) ^ (-r.binaryScale) ≤ r.value / 2 ^ 52 := by
  have hwhole : r.num / r.den ≠ 0 := (Nat.div_pos hone hr).ne'
  have hlog : (2 : ℚ) ^ Nat.log2 (r.num / r.den) ≤ (r.num / r.den : ℕ) := by
    exact_mod_cast Nat.log2_self_le hwhole
  have hdiv : ((r.num / r.den : ℕ) : ℚ) ≤ r.value := Nat.cast_div_le
  have hscale : -r.binaryScale = (Nat.log2 (r.num / r.den) : ℤ) - 52 := by
    rw [binaryScale, neg_sub]
  rw [hscale, zpow_sub₀ two_ne_zero, zpow_natCast]
  exact div_le_div_of_nonneg_right (hlog.trans hdiv) (by norm_num)

theorem toBinary_error (hone : r.den ≤ r.num) : |r.toBinary.value - r.value| ≤ r.value / 2 ^ 53 := by
  have hunit : (0 : ℚ) < 2 ^ (-r.binaryScale) := zpow_pos two_pos _
  have hden : 0 < (r.scale 2 r.binaryScale).den := scale_den_pos two_pos hr _
  have hnearest := nearest_error hden
  calc |r.toBinary.value - r.value|
      = |((r.scale 2 r.binaryScale).nearest : ℚ) - (r.scale 2 r.binaryScale).value| *
          2 ^ (-r.binaryScale) := by
        rw [toBinary_value, value_eq_scale_mul r, ← sub_mul, abs_mul, abs_of_pos hunit]
    _ ≤ 1 / 2 * (r.value / 2 ^ 52) :=
        mul_le_mul hnearest (two_zpow_neg_binaryScale_le hr hone) hunit.le (by norm_num)
    _ = r.value / 2 ^ 53 := by ring

/-- An integer below `2 ^ 53` has all its binary places. -/
theorem toBinary_value_of_eq {n : ℕ} (hvalue : r.value = n) (hn : n < 2 ^ 53) :
    r.toBinary.value = n := by
  have hwhole : r.num / r.den = n := by rw [num_eq_of_value_eq hr hvalue, Nat.mul_div_cancel _ hr]
  have hlog : Nat.log2 n ≤ 52 := by
    rcases Nat.eq_zero_or_pos n with rfl | hpos
    · decide
    · exact Nat.lt_succ_iff.mp ((Nat.log2_lt hpos.ne').mpr hn)
  obtain ⟨e, he⟩ : ∃ e : ℕ, r.binaryScale = e := ⟨52 - Nat.log2 n, by rw [binaryScale, hwhole]; omega⟩
  have hscaled : (r.scale 2 r.binaryScale).value = (n * 2 ^ e : ℕ) := by
    rw [scale_value, he, hvalue, zpow_natCast, Nat.cast_mul, Nat.cast_pow]
  have hnearest : (r.scale 2 r.binaryScale).nearest = n * 2 ^ e := by
    refine nearest_eq_of_lt (scale_den_pos two_pos hr _) ?_
    rw [hscaled, sub_self, abs_zero]
    norm_num
  rw [toBinary_value, hnearest, ← hscaled, ← value_eq_scale_mul r, hvalue]

end Binary

end ConfigAudit.Ratio
