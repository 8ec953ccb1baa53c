import ConfigAudit.FileSize
import ConfigAudit.Proofs.Number.Decimal

/-! Sizes as they are read back from their texts. The number of bytes that a text stands for is off
by half a hundredth of its unit at most, and a larger size never reads as fewer bytes. The unit is
chosen before rounding, so just below the next unit 1024 of the smaller one are shown. -/
namespace ConfigAudit

namespace SizeUnit

theorem worth_pos (u : SizeUnit) : 0 < u.worth := by cases u <;> decide

def all : List SizeUnit := [bytes, kilobytes, megabytes, gigabytes]

/-- The unit of a label. -/
def ofLabel? (t : Text) : Option SizeUnit := all.find? (·.label = t)

theorem ofLabel?_label (u : SizeUnit) : ofLabel? u.label = some u := by cases u <;> decide

/-- The largest unit that a number of bytes reaches. -/
structure Suits (u : SizeUnit) (n : ℕ) : Prop where
  worth_le : u.worth ≤ n
  last_or_lt : u = gigabytes ∨ n < 1024 * u.worth

theorem suits_reachedBy {r : Ratio} (hr : 0 < r.den) {n : ℕ} (hvalue : r.value = n) (hpos : 0 < n) :
    (reachedBy r).Suits n := by
  have hlt (w : ℕ) : r.num < w * r.den ↔ n < w := by
    rw [Ratio.num_eq_of_value_eq hr hvalue, Nat.mul_lt_mul_right hr]
  unfold reachedBy
  simp only [hlt]
  split_ifs with hbytes hkilobytes hmegabytes
  · exact ⟨hpos, .inr hbytes⟩
  · exact ⟨Nat.not_lt.mp hbytes, .inr hkilobytes⟩
  · exact ⟨Nat.not_lt.mp hkilobytes, .inr hmegabytes⟩
  · exact ⟨Nat.not_lt.mp hmegabytes, .inl rfl⟩

/-- Of two sizes in different units, the larger one has the larger unit. -/
theorem Suits.eq_or_worth_le {u v : SizeUnit} {m n : ℕ} (hu : u.Suits m) (hv : v.Suits n)
    (h : m ≤ n) : u = v ∨ m < 1024 * u.worth ∧ 1024 * u.worth ≤ v.worth := by
  obtain ⟨hule, hulast⟩ := hu
  obtain ⟨hvle, hvlast⟩ := hv
  cases u <;> cases v <;> simp [worth] at * <;> omega

theorem Suits.unique {u v : SizeUnit} {n : ℕ} (hu : u.Suits n) (hv : v.Suits n) : u = v := by
  rcases hu.eq_or_worth_le hv le_rfl with heq | ⟨hlt, hnext⟩
  · exact heq
  · exact absurd (hnext.trans hv.worth_le) hlt.not_ge

end SizeUnit

namespace FileSize

/-- The decimal and the unit in a text. -/
def ofText? (t : Text) : Option (ℚ × SizeUnit) :=
  match t.split ' ' with
  | [decimal, label] =>
    decimal.decimal?.bind fun d => (SizeUnit.ofLabel? label).map fun u => (d, u)
  | _ => none

/-- What the text for a size is read as. -/
def read? (size : Int) : Option (ℚ × SizeUnit) := (text? size).bind ofText?

theorem ofText?_append {d : Decimal} (hd : d.Normal) (hexponent : d.exponent < 6) (u : SizeUnit) :
    ofText? (d.text ++ ' ' :: u.label) = some (d.value, u) := by
  have hdecimal : ' ' ∉ d.text := fun hmem =>
    absurd (Decimal.isDigit_of_mem_text hexponent hmem (by decide)) (by decide)
  have hlabel : ' ' ∉ u.label := by cases u <;> decide
  rw [ofText?, Text.split_append_cons, Text.split_of_notMem hdecimal, Text.split_of_notMem hlabel]
  simp only [List.singleton_append, hd.decimal?_text hexponent, SizeUnit.ofLabel?_label,
    Option.bind_some, Option.map_some]

/-- A size in hundredths of a unit. -/
def hundredths (n : ℕ) (u : SizeUnit) : ℕ := (⟨n * 100, u.worth⟩ : Ratio).nearest

/-- The bytes that the hundredths of a unit stand for, as they are before rounding. -/
theorem value_mul_worth (n : ℕ) (u : SizeUnit) :
    (⟨n * 100, u.worth⟩ : Ratio).value * u.worth = n * 100 := by
  rw [Ratio.value_mul_den u.worth_pos, Nat.cast_mul, Nat.cast_ofNat]

theorem not_overflows {r : Ratio} (hr : 0 < r.den) {n : ℕ} (hvalue : r.value = n)
    (hn : n < 2 ^ 53) : r.overflows = false := by
  have hbelow (e : ℕ) (he : 53 ≤ e) : r.num < Nat.pow 2 e * r.den := by
    rw [Ratio.num_eq_of_value_eq hr hvalue]
    exact Nat.mul_lt_mul_of_pos_right (hn.trans_le (Nat.pow_le_pow_right two_pos he)) hr
  rw [Ratio.overflows, decide_eq_false_iff_not, Nat.not_le]
  apply hbelow
  decide

theorem shown?_eq {n : ℕ} (hpos : 0 < n) (hn : n < 2 ^ 53) :
    ∃ u : SizeUnit, u.Suits n ∧
      shown? n = some (.ofRatio (⟨hundredths n u, 100⟩ : Ratio).toBinary, u) := by
  have hden := Ratio.toBinary_den_pos ⟨n, 1⟩
  have hvalue : (⟨n, 1⟩ : Ratio).toBinary.value = n :=
    Ratio.toBinary_value_of_eq one_pos (by rw [Ratio.value, Nat.cast_one, div_one]) hn
  have hsuits := SizeUnit.suits_reachedBy hden hvalue hpos
  refine ⟨_, hsuits, ?_⟩
  have hfits := not_overflows hden hvalue hn
  -- The binary64 number is not in lowest terms, which the nearest integer does not depend on.
  have hhundredths :
      (⟨(⟨n, 1⟩ : Ratio).toBinary.num * 100, (⟨n, 1⟩ : Ratio).toBinary.den *
        (SizeUnit.reachedBy (⟨n, 1⟩ : Ratio).toBinary).worth⟩ : Ratio).nearest =
        hundredths n (SizeUnit.reachedBy (⟨n, 1⟩ : Ratio).toBinary) := by
    refine Ratio.nearest_congr (Nat.mul_pos hden (SizeUnit.worth_pos _)) (SizeUnit.worth_pos _) ?_
    rw [Ratio.value, Ratio.value, Nat.cast_mul, Nat.cast_mul, Nat.cast_mul, mul_div_mul_comm,
      ← Ratio.value, hvalue, mul_div_assoc]
  rw [shown?, hfits]
  simp only [Bool.false_eq_true, if_false, hhundredths]

theorem le_hundredths {n : ℕ} {u : SizeUnit} (h : u.worth ≤ n) : 100 ≤ hundredths n u := by
  refine Ratio.le_nearest u.worth_pos ?_
  have hworth : (0 : ℚ) < u.worth := by exact_mod_cast u.worth_pos
  have hle : (u.worth : ℚ) ≤ n := by exact_mod_cast h
  rw [← mul_le_mul_iff_left₀ hworth, value_mul_worth, Nat.cast_ofNat]
  linarith

theorem hundredths_le {n k : ℕ} {u : SizeUnit} (h : n ≤ k * u.worth) :
    hundredths n u ≤ k * 100 := by
  refine Ratio.nearest_le u.worth_pos ?_
  have hworth : (0 : ℚ) < u.worth := by exact_mod_cast u.worth_pos
  have hle : (n : ℚ) ≤ k * u.worth := by exact_mod_cast h
  rw [← mul_le_mul_iff_left₀ hworth, value_mul_worth, Nat.cast_mul, Nat.cast_ofNat]
  linarith

theorem hundredths_mono {m n : ℕ} (u : SizeUnit) (h : m ≤ n) : hundredths m u ≤ hundredths n u := by
  refine Ratio.nearest_mono u.worth_pos u.worth_pos ?_
  have hworth : (0 : ℚ) < u.worth := by exact_mod_cast u.worth_pos
  have hle : (m : ℚ) ≤ n := by exact_mod_cast h
  rw [← mul_le_mul_iff_left₀ hworth, value_mul_worth, value_mul_worth]
  linarith

/-- The text for a size is read as the hundredths of the unit that suits it. -/
theorem read?_eq {n : ℕ} (hpos : 0 < n) (hn : n < 10000 * 1024 ^ 3) :
    ∃ u : SizeUnit, u.Suits n ∧ read? n = some ((hundredths n u / 100 : ℚ), u) := by
  obtain ⟨u, hu, hshown⟩ := shown?_eq hpos (by omega)
  have hmost : n ≤ 10000 * u.worth := by
    rcases hu.last_or_lt with rfl | hlt
    · exact hn.le
    · omega
  obtain ⟨d, hd, hnormal, hexponent, hvalue⟩ :=
    Decimal.exists_ofRatio_hundredths (le_hundredths hu.worth_le) (hundredths_le hmost)
  have htext : text? n = some (d.text ++ ' ' :: u.label) := by
    have hsize : ¬(n : ℤ) ≤ 0 := by omega
    rw [text?, if_neg hsize, Int.toNat_natCast, hshown, Option.map_some, hd]
  exact ⟨u, hu, by rw [read?, htext, Option.bind_some, ofText?_append hnormal hexponent, hvalue]⟩

theorem read?_of_suits {n : ℕ} {u : SizeUnit} (hu : u.Suits n) (hn : n < 10000 * 1024 ^ 3) :
    read? n = some ((hundredths n u / 100 : ℚ), u) := by
  obtain ⟨v, hv, hread⟩ := read?_eq (u.worth_pos.trans_le hu.worth_le) hn
  rw [hread, hv.unique hu]

/-- The last size before a megabyte. -/
theorem read?_below_megabyte : read? 1048575 = some (1024, .kilobytes) := by
  have hsuits : SizeUnit.kilobytes.Suits 1048575 := ⟨by decide, .inr (by decide)⟩
  have hrounded : hundredths 1048575 .kilobytes = 102400 := by decide
  have hshown : ((102400 : ℕ) / 100 : ℚ) = 1024 := by norm_num
  rw [← Nat.cast_ofNat, read?_of_suits hsuits (by decide), hrounded, hshown]

theorem hundredths_error (n : ℕ) (u : SizeUnit) :
    |(hundredths n u / 100 * u.worth : ℚ) - n| ≤ u.worth / 200 := by
  have hworth : (0 : ℚ) ≤ u.worth / 100 := by positivity
  have herror := mul_le_mul_of_nonneg_right
    (Ratio.nearest_error (r := ⟨n * 100, u.worth⟩) u.worth_pos) hworth
  calc |(hundredths n u / 100 * u.worth : ℚ) - n|
      = |(hundredths n u : ℚ) - (⟨n * 100, u.worth⟩ : Ratio).value| * (u.worth / 100) := by
        have hbytes : (n : ℚ) = (⟨n * 100, u.worth⟩ : Ratio).value * (u.worth / 100) := by
          rw [mul_div_assoc', value_mul_worth, mul_div_cancel_right₀ _ (by norm_num)]
        have hread : (hundredths n u / 100 * u.worth : ℚ) = hundredths n u * (u.worth / 100) := by
          ring
        rw [hread, hbytes, ← sub_mul, abs_mul, abs_of_nonneg hworth]
    _ ≤ 1 / 2 * (u.worth / 100) := herror
    _ = u.worth / 200 := by ring

/-- A size is read with at most half a hundredth of its unit too many or too few, and a size that
is not smaller is not read as fewer bytes, whatever their units are. -/
theorem read?_accurate_ordered {n : ℕ} (hpos : 0 < n) (hn : n < 10000 * 1024 ^ 3) :
    ∃ d u, read? n = some (d, u) ∧ |d * u.worth - n| ≤ u.worth / 200 ∧
      ∀ m : ℕ, n ≤ m → m < 10000 * 1024 ^ 3 →
        ∃ e v, read? m = some (e, v) ∧ d * u.worth ≤ e * v.worth := by
  obtain ⟨u, hu, hread⟩ := read?_eq hpos hn
  refine ⟨_, u, hread, hundredths_error n u, fun m hm hlt => ?_⟩
  obtain ⟨v, hv, hread'⟩ := read?_eq (hpos.trans_le hm) hlt
  refine ⟨_, v, hread', ?_⟩
  have hworth : (0 : ℚ) < u.worth := by exact_mod_cast u.worth_pos
  rcases hu.eq_or_worth_le hv hm with rfl | ⟨hsmall, hnext⟩
  · have hmono : (hundredths n u : ℚ) ≤ hundredths m u := by exact_mod_cast hundredths_mono u hm
    exact mul_le_mul_of_nonneg_right (by linarith) hworth.le
  · -- The smaller unit ends at 1024, where the larger one begins.
    have hmost : (hundredths n u : ℚ) ≤ 1024 * 100 := by exact_mod_cast hundredths_le hsmall.le
    have hleast : (100 : ℚ) ≤ hundredths m v := by exact_mod_cast le_hundredths hv.worth_le
    have hunits : (1024 * u.worth : ℚ) ≤ v.worth := by exact_mod_cast hnext
    calc (hundredths n u / 100 * u.worth : ℚ)
        ≤ 1024 * u.worth := mul_le_mul_of_nonneg_right (by linarith) hworth.le
      _ ≤ v.worth := hunits
      _ ≤ hundredths m v / 100 * v.worth :=
          le_mul_of_one_le_left (Nat.cast_nonneg _) (by linarith)

theorem read?_accurate_ordered_boundary :
    0 < 1048575 ∧ 1048575 < 10000 * 1024 ^ 3 ∧ read? 1048575 = some (1024, .kilobytes) ∧
      |(1024 * 1024 : ℚ) - 1048575| ≤ 1024 / 200 ∧
      ∃ e v, read? 1048576 = some (e, v) ∧ (1024 * 1024 : ℚ) ≤ e * v.worth := by
  obtain ⟨d, u, hread, herror, hordered⟩ := read?_accurate_ordered (n := 1048575) (by decide)
    (by decide)
  obtain ⟨rfl, rfl⟩ : (1024, .kilobytes) = (d, u) :=
    Option.some.inj (read?_below_megabyte.symm.trans hread)
  exact ⟨by decide, by decide, hread, herror, hordered 1048576 (by decide) (by decide)⟩

/-- A size below the next unit is shown as 1024 from half a hundredth on, for the even neighbour
wins there. -/
theorem hundredths_eq_iff {n : ℕ} {u : SizeUnit} (h : n ≤ 1024 * u.worth) :
    hundredths n u = 102400 ↔ (1024 * u.worth - n : ℚ) ≤ u.worth / 200 := by
  have hworth : (0 : ℚ) < u.worth := by exact_mod_cast u.worth_pos
  have hvalue := value_mul_worth n u
  have hle : (n : ℚ) ≤ 1024 * u.worth := by exact_mod_cast h
  have hbelow : (⟨n * 100, u.worth⟩ : Ratio).value ≤ (102400 : ℕ) := by
    rw [← mul_le_mul_iff_left₀ hworth, hvalue, Nat.cast_ofNat]
    linarith
  rw [hundredths, Ratio.nearest_eq_iff_of_even u.worth_pos (by decide) hbelow,
    ← mul_le_mul_iff_left₀ hworth, hvalue, Nat.cast_ofNat]
  constructor <;> intro hclose <;> linarith

/-- The decimal is at least one and at most 1024. It is 1024, and not one of the next unit, exactly
if the size is at most half a hundredth of its unit away from the next one. -/
theorem read?_le_next {n : ℕ} (hpos : 0 < n) (hn : n < 1024 ^ 4) :
    ∃ d u, read? n = some (d, u) ∧ u.worth ≤ n ∧ n < 1024 * u.worth ∧ 1 ≤ d ∧ d ≤ 1024 ∧
      (d = 1024 ↔ (1024 * u.worth - n : ℚ) ≤ u.worth / 200) := by
  obtain ⟨u, hu, hread⟩ := read?_eq hpos (by omega)
  have hnext : n < 1024 * u.worth := by
    rcases hu.last_or_lt with rfl | hlt
    · exact hn
    · exact hlt
  have hleast : (100 : ℚ) ≤ hundredths n u := by exact_mod_cast le_hundredths hu.worth_le
  have hmost : (hundredths n u : ℚ) ≤ 1024 * 100 := by exact_mod_cast hundredths_le hnext.le
  have hshown : (hundredths n u / 100 : ℚ) = 1024 ↔ hundredths n u = 102400 := by
    have hcast : (1024 * 100 : ℚ) = (102400 : ℕ) := by norm_num
    rw [div_eq_iff (by norm_num), hcast, Nat.cast_inj]
  refine ⟨_, u, hread, hu.worth_le, hnext, by linarith, by linarith, ?_⟩
  rw [hshown, hundredths_eq_iff hnext.le]

theorem read?_le_next_rounded :
    0 < 1048570 ∧ 1048570 < 1024 ^ 4 ∧ read? 1048570 = some (102399 / 100, .kilobytes) ∧
      ¬(1024 * 1024 - 1048570 : ℚ) ≤ 1024 / 200 := by
  have hsuits : SizeUnit.kilobytes.Suits 1048570 := ⟨by decide, .inr (by decide)⟩
  have hrounded : hundredths 1048570 .kilobytes = 102399 := by decide
  have hread : read? 1048570 = some (102399 / 100, .kilobytes) := by
    rw [← Nat.cast_ofNat, read?_of_suits hsuits (by decide), hrounded, Nat.cast_ofNat]
  obtain ⟨d, u, hread', -, -, -, -, hshown⟩ := read?_le_next (n := 1048570) (by decide) (by decide)
  obtain ⟨rfl, rfl⟩ : (102399 / 100, .kilobytes) = (d, u) :=
    Option.some.inj (hread.symm.trans hread')
  exact ⟨by decide, by decide, hread, mt hshown.mpr (by norm_num)⟩

/-- One byte less than a megabyte is shown as 1024 kilobytes. -/
theorem read?_reaches_next :
    ¬∀ n : ℕ, 0 < n → n < 1024 ^ 4 → ∃ d u, read? n = some (d, u) ∧ 1 ≤ d ∧ d < 1024 := by
  intro hbelow
  obtain ⟨d, u, hread, -, hlt⟩ := hbelow 1048575 (by decide) (by decide)
  obtain ⟨rfl, -⟩ : (1024, .kilobytes) = (d, u) :=
    Option.some.inj (read?_below_megabyte.symm.trans hread)
  exact absurd hlt (lt_irrefl _)

end FileSize
end ConfigAudit
