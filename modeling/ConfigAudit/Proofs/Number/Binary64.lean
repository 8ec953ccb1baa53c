import ConfigAudit.Number.Binary64
import ConfigAudit.Proofs.Number.Nearest

/-! Binary64 numbers by the values that they stand for. A ratio is rounded to the nearest significand
of 53 bits, and what is rounded is compared with integers as the value that it has. -/
namespace ConfigAudit.Binary64

/-- The value of a finite number. -/
def value? : Binary64 → Option ℚ
  | finite negative significand exponent =>
    some ((if negative then -1 else 1) * (significand * (2 : ℚ) ^ exponent))
  | _ => none

/-- Negative infinity is below every integer, and a finite number if its value is less. -/
def Below (x : Binary64) (n : ℤ) : Prop := x = infinite true ∨ ∃ v ∈ x.value?, v < n

/-- Infinity is above every integer, and a finite number if its value is greater. -/
def Above (x : Binary64) (n : ℤ) : Prop := x = infinite false ∨ ∃ v ∈ x.value?, (n : ℚ) < v

theorem Below.mono {x : Binary64} {m n : ℤ} (h : x.Below m) (hle : m ≤ n) : x.Below n := by
  rcases h with h | ⟨v, hv, hlt⟩
  · exact .inl h
  · exact .inr ⟨v, hv, hlt.trans_le (by exact_mod_cast hle)⟩

section Finite

variable (negative : Bool) (significand : ℕ) (exponent : ℤ)

theorem magnitude_den_pos : 0 < (magnitude significand exponent).den :=
  Ratio.scale_den_pos two_pos one_pos _

theorem magnitude_value :
    (magnitude significand exponent).value = significand * (2 : ℚ) ^ exponent := by
  rw [magnitude, Ratio.scale_value, Ratio.value, Nat.cast_one, div_one, Nat.cast_ofNat]

/-- The numerator with its sign is the value over the denominator. -/
theorem cast_signed_num :
    (((if negative then -Int.ofNat (magnitude significand exponent).num
        else (magnitude significand exponent).num : ℤ)) : ℚ) =
      (if negative then -1 else 1) * (significand * (2 : ℚ) ^ exponent) *
        (magnitude significand exponent).den := by
  rw [← magnitude_value, mul_assoc, Ratio.value_mul_den (magnitude_den_pos _ _)]
  cases negative <;> simp

theorem isBelow_finite_iff (n : ℤ) :
    (finite negative significand exponent).isBelow n = true ↔
      (if negative then -1 else 1) * (significand * (2 : ℚ) ^ exponent) < n := by
  have hden : (0 : ℚ) < (magnitude significand exponent).den := by
    exact_mod_cast magnitude_den_pos significand exponent
  rw [← mul_lt_mul_iff_left₀ hden, ← cast_signed_num]
  simp only [isBelow, decide_eq_true_eq]
  exact_mod_cast Iff.rfl

theorem isAbove_finite_iff (n : ℤ) :
    (finite negative significand exponent).isAbove n = true ↔
      (n : ℚ) < (if negative then -1 else 1) * (significand * (2 : ℚ) ^ exponent) := by
  have hden : (0 : ℚ) < (magnitude significand exponent).den := by
    exact_mod_cast magnitude_den_pos significand exponent
  rw [← mul_lt_mul_iff_left₀ hden, ← cast_signed_num]
  simp only [isAbove, decide_eq_true_eq]
  exact_mod_cast Iff.rfl

end Finite

theorem isBelow_iff (x : Binary64) (n : ℤ) : x.isBelow n = true ↔ x.Below n := by
  cases x with
  | nan => simp [isBelow, Below, value?]
  | infinite negative => simp [isBelow, Below, value?]
  | finite negative significand exponent =>
    simp only [isBelow_finite_iff, Below, value?, reduceCtorEq, false_or, Option.mem_some_iff,
      exists_eq_left']

theorem isAbove_iff (x : Binary64) (n : ℤ) : x.isAbove n = true ↔ x.Above n := by
  cases x with
  | nan => simp [isAbove, Above, value?]
  | infinite negative => simp [isAbove, Above, value?]
  | finite negative significand exponent =>
    simp only [isAbove_finite_iff, Above, value?, reduceCtorEq, false_or, Option.mem_some_iff,
      exists_eq_left']

/-- A ratio with a sign is an integer if its denominator divides the numerator. -/
theorem signed_num_eq_mul_den_iff (negative : Bool) {r : Ratio} (hden : 0 < r.den) (n : ℤ) :
    (if negative then -Int.ofNat r.num else r.num) = n * r.den ↔
      r.num % r.den = 0 ∧
        (if negative then -Int.ofNat (r.num / r.den) else (r.num / r.den : ℕ)) = n := by
  have hcancel : (r.den : ℤ) ≠ 0 := by exact_mod_cast hden.ne'
  constructor
  · intro h
    have hdvd : (r.den : ℤ) ∣ r.num := by
      cases negative with
      | true => exact (dvd_neg (a := (r.den : ℤ))).mp (Dvd.intro_left n h.symm)
      | false => exact Dvd.intro_left n h.symm
    obtain ⟨q, hq⟩ := Int.natCast_dvd_natCast.mp hdvd
    rw [hq] at h ⊢
    rw [Nat.mul_mod_right, Nat.mul_div_cancel_left q hden]
    refine ⟨rfl, mul_right_cancel₀ hcancel ?_⟩
    rw [← h]
    cases negative <;> simp [mul_comm]
  · rintro ⟨hmod, rfl⟩
    have hnum : (r.num : ℤ) = (r.num / r.den : ℕ) * r.den := by
      exact_mod_cast (Nat.div_mul_cancel (Nat.dvd_of_mod_eq_zero hmod)).symm
    cases negative with
    | true => exact (congrArg Neg.neg hnum).trans (neg_mul _ _).symm
    | false => exact hnum

/-- A number is an integer if that is its value. -/
theorem toInteger_eq_ok_iff (x : Binary64) (n : ℤ) :
    x.toInteger = .ok n ↔ x.value? = some (n : ℚ) := by
  cases x with
  | nan => simp [toInteger, value?]
  | infinite negative => simp [toInteger, value?]
  | finite negative significand exponent =>
    have hden := magnitude_den_pos significand exponent
    have hpos : ((magnitude significand exponent).den : ℚ) ≠ 0 := by exact_mod_cast hden.ne'
    have hvalue : value? (finite negative significand exponent) = some (n : ℚ) ↔
        (if negative then -Int.ofNat (magnitude significand exponent).num
          else (magnitude significand exponent).num) =
            n * (magnitude significand exponent).den := by
      rw [value?, Option.some.injEq, ← mul_left_inj' hpos, ← cast_signed_num]
      exact_mod_cast Iff.rfl
    rw [hvalue, signed_num_eq_mul_den_iff negative hden]
    simp only [toInteger]
    split_ifs <;> simp_all

section Rounding

variable {r : Ratio} (hden : 0 < r.den)
include hden

theorem den_le_num_scale_iff (k : ℤ) :
    (r.scale 2 (-k)).den ≤ (r.scale 2 (-k)).num ↔ (2 : ℚ) ^ k ≤ r.value := by
  have hunit : (0 : ℚ) < 2 ^ k := zpow_pos two_pos k
  have hscaled : (0 : ℚ) < (r.scale 2 (-k)).den := by
    exact_mod_cast Ratio.scale_den_pos two_pos hden (-k)
  have hvalue := Ratio.scale_value 2 r (-k)
  rw [Ratio.value, Nat.cast_ofNat, zpow_neg, ← div_eq_mul_inv, div_eq_div_iff hscaled.ne' hunit.ne']
    at hvalue
  rw [← Nat.cast_le (α := ℚ), ← mul_le_mul_iff_left₀ hunit, hvalue, mul_comm,
    mul_le_mul_iff_left₀ hscaled]

variable (hnum : 0 < r.num)
include hnum

/-- The binary logarithm is exact to the whole. -/
theorem log2_bounds : (2 : ℚ) ^ log2 r ≤ r.value ∧ r.value < 2 ^ (log2 r + 1) := by
  have hpos : (0 : ℚ) < r.den := by exact_mod_cast hden
  have hnumLow : (2 : ℚ) ^ (Nat.log2 r.num : ℤ) ≤ r.num := by
    exact_mod_cast Nat.log2_self_le hnum.ne'
  have hnumHigh : (r.num : ℚ) < 2 ^ (Nat.log2 r.num + 1 : ℤ) := by
    exact_mod_cast Nat.lt_log2_self (n := r.num)
  have hdenLow : (2 : ℚ) ^ (Nat.log2 r.den : ℤ) ≤ r.den := by
    exact_mod_cast Nat.log2_self_le hden.ne'
  have hdenHigh : (r.den : ℚ) < 2 ^ (Nat.log2 r.den + 1 : ℤ) := by
    exact_mod_cast Nat.lt_log2_self (n := r.den)
  have hhigh : r.value < 2 ^ ((Nat.log2 r.num - Nat.log2 r.den : ℤ) + 1) := by
    rw [Ratio.value, div_lt_iff₀ hpos]
    calc (r.num : ℚ) < 2 ^ (Nat.log2 r.num + 1 : ℤ) := hnumHigh
      _ = 2 ^ ((Nat.log2 r.num - Nat.log2 r.den : ℤ) + 1) * 2 ^ (Nat.log2 r.den : ℤ) := by
        rw [← zpow_add₀ two_ne_zero]
        congr 1
        ring
      _ ≤ 2 ^ ((Nat.log2 r.num - Nat.log2 r.den : ℤ) + 1) * r.den :=
        mul_le_mul_of_nonneg_left hdenLow (zpow_nonneg two_pos.le _)
  have hlow : (2 : ℚ) ^ ((Nat.log2 r.num - Nat.log2 r.den : ℤ) - 1) ≤ r.value := by
    rw [Ratio.value, le_div_iff₀ hpos]
    calc (2 : ℚ) ^ ((Nat.log2 r.num - Nat.log2 r.den : ℤ) - 1) * r.den
        ≤ 2 ^ ((Nat.log2 r.num - Nat.log2 r.den : ℤ) - 1) * 2 ^ (Nat.log2 r.den + 1 : ℤ) :=
          mul_le_mul_of_nonneg_left hdenHigh.le (zpow_nonneg two_pos.le _)
      _ = 2 ^ (Nat.log2 r.num : ℤ) := by
        rw [← zpow_add₀ two_ne_zero]
        congr 1
        ring
      _ ≤ r.num := hnumLow
  have hiff := den_le_num_scale_iff hden (Nat.log2 r.num - Nat.log2 r.den)
  unfold log2
  dsimp only
  split_ifs with hreached
  · exact ⟨hiff.mp hreached, hhigh⟩
  · rw [sub_add_cancel]
    exact ⟨hlow, not_le.mp (mt hiff.mpr hreached)⟩

/-- The significand of a ratio at the exponent that it is rounded at. -/
theorem significand_bounds :
    let exponent := max (log2 r - 52) minExponent
    let significand := (r.scale 2 (-exponent)).nearest
    significand ≤ 2 ^ 53 ∧ (2 ^ 52 ≤ significand ∨ exponent = minExponent) ∧
      |significand * (2 : ℚ) ^ exponent - r.value| ≤ 2 ^ exponent / 2 := by
  intro exponent significand
  obtain ⟨hlow, hhigh⟩ := log2_bounds hden hnum
  have hunit : (0 : ℚ) < 2 ^ exponent := zpow_pos two_pos exponent
  have hscaled := Ratio.scale_den_pos two_pos hden (-exponent)
  have hvalue : (r.scale 2 (-exponent)).value = r.value / 2 ^ exponent := by
    rw [Ratio.scale_value, Nat.cast_ofNat, zpow_neg, ← div_eq_mul_inv]
  have hexponent : log2 r - 52 ≤ exponent := le_max_left _ _
  refine ⟨Ratio.nearest_le hscaled ?_, ?_, ?_⟩
  · rw [hvalue, div_le_iff₀ hunit]
    calc r.value ≤ 2 ^ (log2 r + 1) := hhigh.le
      _ ≤ 2 ^ (53 + exponent) := zpow_le_zpow_right₀ one_le_two (by omega)
      _ = (2 ^ 53 : ℕ) * 2 ^ exponent := by
        rw [zpow_add₀ two_ne_zero]
        norm_num
  · rcases le_total (log2 r - 52) minExponent with hleast | hnormal
    · exact .inr (max_eq_right hleast)
    · have hexact : exponent = log2 r - 52 := max_eq_left hnormal
      refine .inl (Ratio.le_nearest hscaled ?_)
      rw [hvalue, le_div_iff₀ hunit]
      calc ((2 ^ 52 : ℕ) : ℚ) * 2 ^ exponent = 2 ^ (log2 r) := by
            rw [hexact, zpow_sub₀ two_ne_zero, Nat.cast_pow, Nat.cast_ofNat]
            exact mul_div_cancel₀ _ (by norm_num)
        _ ≤ r.value := hlow
  · have hnearest := mul_le_mul_of_nonneg_right (Ratio.nearest_error hscaled) hunit.le
    rwa [← abs_of_pos hunit, ← abs_mul, abs_of_pos hunit, sub_mul, hvalue,
      div_mul_cancel₀ _ hunit.ne', one_div_mul_eq_div] at hnearest

/-- A positive ratio is rounded to a significand of 53 bits, or of less at the least exponent, half a
unit of which is the most that it is off. -/
theorem ofRatio_spec {negative negative' : Bool} {significand : ℕ} {exponent : ℤ}
    (h : ofRatio negative r = finite negative' significand exponent) :
    negative' = negative ∧ significand < 2 ^ 53 ∧ minExponent ≤ exponent ∧
      exponent ≤ maxExponent ∧ (2 ^ 52 ≤ significand ∨ exponent = minExponent) ∧
      |significand * (2 : ℚ) ^ exponent - r.value| ≤ 2 ^ exponent / 2 := by
  obtain ⟨hle, hnormal, herror⟩ := significand_bounds hden hnum
  have hleast : minExponent ≤ max (log2 r - 52) minExponent := le_max_right _ _
  rw [ofRatio, if_neg hnum.ne'] at h
  dsimp only at h
  generalize max (log2 r - 52) minExponent = e at h hle hnormal herror hleast
  generalize (r.scale 2 (-e)).nearest = m at h hle hnormal herror
  unfold ofRounded bounded at h
  split_ifs at h with hcarry hrange hrange
  · obtain ⟨rfl, rfl, rfl⟩ := finite.inj h
    refine ⟨rfl, by norm_num, by omega, by omega, .inl (by norm_num), ?_⟩
    -- The bit that is dropped is zero, and the unit has doubled.
    have hunit : (0 : ℚ) < 2 ^ e := zpow_pos two_pos e
    have hhalved : ((0x10000000000000 : ℕ) : ℚ) * 2 ^ (e + 1) = m * 2 ^ e := by
      rw [hcarry, zpow_add_one₀ two_ne_zero]
      push_cast
      ring
    rw [hhalved, zpow_add_one₀ two_ne_zero]
    linarith
  · obtain ⟨rfl, rfl, rfl⟩ := finite.inj h
    exact ⟨rfl, by omega, hleast, by omega, hnormal, herror⟩

end Rounding

end ConfigAudit.Binary64
