import ConfigAudit.Proofs.Device.Line
import ConfigAudit.Proofs.Number.Nearest
import Mathlib.Tactic.IntervalCases
import Mathlib.Tactic.Positivity

/-! Decimals as they are shown. A reader of digits with a point among them takes from a text the
number that was put there, although zeros at its end are left out. Six significant digits are
enough for every number of hundredths up to ten thousand, also behind a binary64 number. -/
namespace ConfigAudit

namespace Text

/-- The number that some digits stand for. -/
def natural? (t : Text) : Option ℕ :=
  if t ≠ [] ∧ t.all Char.isDigit then some (Nat.ofDigitChars 10 t 0) else none

/-- The number that digits stand for, among which there may be a point. -/
def decimal? (t : Text) : Option ℚ :=
  match t.split '.' with
  | [whole] => (natural? whole).map Nat.cast
  | [whole, fraction] =>
    (natural? whole).bind fun w : ℕ =>
      (natural? fraction).map fun f : ℕ => (w : ℚ) + f / 10 ^ fraction.length
  | _ => none

theorem natural?_eq {t : Text} (hne : t ≠ []) (hdigits : ∀ c ∈ t, c.isDigit) :
    natural? t = some (Nat.ofDigitChars 10 t 0) := if_pos ⟨hne, List.all_eq_true.mpr hdigits⟩

theorem point_notMem_of_isDigit {t : Text} (hdigits : ∀ c ∈ t, c.isDigit) : '.' ∉ t :=
  fun hmem => absurd (hdigits '.' hmem) (by decide)

theorem split_of_notMem {separator : Char} {t : Text} (h : separator ∉ t) :
    t.split separator = [t] := by
  have hpieces : ∀ piece ∈ [t], separator ∉ piece :=
    fun piece hpiece => List.mem_singleton.mp hpiece ▸ h
  have hjoined := split_join hpieces (List.cons_ne_nil t [])
  rwa [join, List.intercalate_singleton] at hjoined

theorem ofDigitChars_append_eq (t u : Text) :
    Nat.ofDigitChars 10 (t ++ u) 0 =
      10 ^ u.length * Nat.ofDigitChars 10 t 0 + Nat.ofDigitChars 10 u 0 := by
  rw [Nat.ofDigitChars_append, Nat.ofDigitChars_eq_ofDigitChars_zero]

theorem ofDigitChars_zeros {zeros : Text} (h : ∀ c ∈ zeros, c = '0') :
    Nat.ofDigitChars 10 zeros 0 = 0 := by
  induction zeros with
  | nil => rfl
  | cons c r ih =>
    obtain ⟨rfl, hr⟩ := List.forall_mem_cons.mp h
    exact ih hr

/-- The digits behind a point stand for a part of one. -/
def fractionValue (digits : Text) : ℚ := Nat.ofDigitChars 10 digits 0 / 10 ^ digits.length

/-- Zeros at the end of a fraction do not count. -/
theorem fractionValue_append_zeros (digits : Text) {zeros : Text} (h : ∀ c ∈ zeros, c = '0') :
    fractionValue (digits ++ zeros) = fractionValue digits := by
  have hpow : (10 : ℚ) ^ zeros.length ≠ 0 := pow_ne_zero _ (by norm_num)
  rw [fractionValue, ofDigitChars_append_eq, ofDigitChars_zeros h, Nat.add_zero, List.length_append,
    pow_add, Nat.cast_mul, Nat.cast_pow, Nat.cast_ofNat, mul_comm, mul_div_mul_right _ _ hpow,
    fractionValue]

/-- Digits with a point among them stand for their number without it, in units of the last place. -/
theorem value_take_add_fractionValue_drop (digits : Text) (k : ℕ) :
    Nat.ofDigitChars 10 (digits.take k) 0 + fractionValue (digits.drop k) =
      (Nat.ofDigitChars 10 digits 0 : ℚ) / 10 ^ (digits.length - k) := by
  have hpow : (10 : ℚ) ^ (digits.length - k) ≠ 0 := pow_ne_zero _ (by norm_num)
  have hjoined := ofDigitChars_append_eq (digits.take k) (digits.drop k)
  rw [List.take_append_drop] at hjoined
  rw [hjoined, fractionValue, List.length_drop, Nat.cast_add, Nat.cast_mul, Nat.cast_pow,
    Nat.cast_ofNat, add_div, mul_div_cancel_left₀ _ hpow]

end Text

namespace Decimal

/-- The number that a decimal stands for. -/
def value (d : Decimal) : ℚ := d.digits * (10 : ℚ) ^ ((d.exponent : ℤ) - 5)

/-- The first of the six digits is not zero. -/
structure Normal (d : Decimal) : Prop where
  le_digits : 100000 ≤ d.digits
  digits_lt : d.digits < 1000000

theorem fraction_eq (digits : Text) :
    ∃ kept zeros : Text, digits = kept ++ zeros ∧ (∀ c ∈ zeros, c = '0') ∧
      fraction digits = if kept = [] then [] else '.' :: kept := by
  refine ⟨digits.rdropWhile (· = '0'), digits.rtakeWhile (· = '0'), ?_, ?_, rfl⟩
  · rw [List.rdropWhile_append_rtakeWhile]
  · intro c hc
    simpa using List.mem_rtakeWhile_imp hc

theorem eq_point_or_mem_of_mem_fraction {c : Char} {digits : Text} (hc : c ∈ fraction digits) :
    c = '.' ∨ c ∈ digits := by
  obtain ⟨kept, zeros, rfl, -, hfraction⟩ := fraction_eq digits
  rw [hfraction] at hc
  split_ifs at hc
  · cases hc
  · exact (List.mem_cons.mp hc).imp_right fun hkept => List.mem_append_left zeros hkept

theorem isDigit_of_mem_text {d : Decimal} (hexponent : d.exponent < 6) {c : Char} (hc : c ∈ d.text)
    (hpoint : c ≠ '.') : c.isDigit := by
  have hdigit (h : c ∈ Text.ofNat d.digits) : c.isDigit :=
    Nat.isDigit_of_mem_toDigits (by decide) (by decide) h
  rw [text, if_pos hexponent, List.mem_append] at hc
  rcases hc with hc | hc
  · exact hdigit (List.mem_of_mem_take hc)
  · rcases eq_point_or_mem_of_mem_fraction hc with rfl | hc
    · exact absurd rfl hpoint
    · exact hdigit (List.mem_of_mem_drop hc)

/-- The zeros that a fraction is shown without are not missed. -/
theorem decimal?_append_fraction {whole digits : Text} (hne : whole ≠ [])
    (hwhole : ∀ c ∈ whole, c.isDigit) (hdigits : ∀ c ∈ digits, c.isDigit) :
    Text.decimal? (whole ++ fraction digits) =
      some (Nat.ofDigitChars 10 whole 0 + Text.fractionValue digits) := by
  obtain ⟨kept, zeros, rfl, hzeros, hfraction⟩ := fraction_eq digits
  have hkept : ∀ c ∈ kept, c.isDigit := fun c hc => hdigits c (List.mem_append_left zeros hc)
  rw [hfraction, Text.fractionValue_append_zeros kept hzeros]
  have hsplit := Text.split_of_notMem (Text.point_notMem_of_isDigit hwhole)
  split_ifs with hnil
  · subst hnil
    rw [List.append_nil, Text.decimal?, hsplit]
    simp only [Text.natural?_eq hne hwhole, Option.map_some, Text.fractionValue,
      Nat.ofDigitChars_nil, Nat.cast_zero, zero_div, add_zero]
  · rw [Text.decimal?, Text.split_append_cons, hsplit,
      Text.split_of_notMem (Text.point_notMem_of_isDigit hkept)]
    simp only [List.singleton_append, Text.natural?_eq hne hwhole, Text.natural?_eq hnil hkept,
      Option.bind_some, Option.map_some, Text.fractionValue]

namespace Normal

variable {d : Decimal} (hd : d.Normal)
include hd

theorem length_digits : (Text.ofNat d.digits).length = 6 := by
  have hle := (Nat.length_toDigits_le_iff (b := 10) (n := d.digits) (k := 6) (by decide)
    (by decide)).mpr hd.digits_lt
  have hgt := mt (Nat.length_toDigits_le_iff (b := 10) (n := d.digits) (k := 5) (by decide)
    (by decide)).mp (Nat.not_lt.mpr hd.le_digits)
  rw [Text.ofNat]
  omega

/-- Positional notation gives a decimal back. -/
theorem decimal?_text (hexponent : d.exponent < 6) : Text.decimal? d.text = some d.value := by
  have hlength := hd.length_digits
  have hdigits : ∀ c ∈ Text.ofNat d.digits, c.isDigit := fun c hc =>
    Nat.isDigit_of_mem_toDigits (by decide) (by decide) hc
  have hne : (Text.ofNat d.digits).take (d.exponent + 1) ≠ [] := by
    rw [Ne, ← List.length_eq_zero_iff, List.length_take]
    omega
  have hplaces : (Text.ofNat d.digits).length - (d.exponent + 1) = 5 - d.exponent := by omega
  have hscale : (d.exponent : ℤ) - 5 = -((5 - d.exponent : ℕ) : ℤ) := by omega
  rw [text, if_pos hexponent,
    decimal?_append_fraction hne (fun c hc => hdigits c (List.mem_of_mem_take hc))
      (fun c hc => hdigits c (List.mem_of_mem_drop hc)),
    Text.value_take_add_fractionValue_drop, hplaces, Text.ofNat, Nat.ofDigitChars_ten_toDigits,
    value, hscale, zpow_neg, zpow_natCast, div_eq_mul_inv]

end Normal

/-- A ratio that is less than half a last place away from a decimal of its own length is shown as
this decimal. -/
theorem ofRatio_eq {r : Ratio} (hr : 0 < r.den) {d : Decimal} (hdigits : d.digits < 1000000)
    (hlength : (Text.ofNat (r.num / r.den)).length = d.exponent + 1)
    (hnear : |r.value * 10 ^ (5 - d.exponent : ℤ) - d.digits| < 1 / 2) : ofRatio r = d := by
  have hexponent : (Text.ofNat (r.num / r.den)).length - 1 = d.exponent := by omega
  have hnearest : (r.scale 10 (5 - d.exponent)).nearest = d.digits := by
    refine Ratio.nearest_eq_of_lt (Ratio.scale_den_pos (by decide) hr _) ?_
    rwa [Ratio.scale_value, Nat.cast_ofNat]
  unfold ofRatio
  rw [hexponent]
  dsimp only
  rw [hnearest, if_pos hdigits]

/-- Six digits hold every number of hundredths from one up to ten thousand. -/
theorem exists_sixDigits {k : ℕ} (hlow : 100 ≤ k) (hhigh : k ≤ 1000000) :
    ∃ d : Decimal, d.Normal ∧ (Text.ofNat (k / 100)).length = d.exponent + 1 ∧ d.exponent ≤ 4 ∧
      d.digits * 100 = k * 10 ^ (5 - d.exponent) := by
  have hpos : 0 < (Text.ofNat (k / 100)).length := Nat.length_toDigits_pos
  have hlength (places : ℕ) (hplaces : 0 < places) :
      (Text.ofNat (k / 100)).length ≤ places ↔ k / 100 < 10 ^ places :=
    Nat.length_toDigits_le_iff (by decide) hplaces
  obtain ⟨e, he⟩ : ∃ e, (Text.ofNat (k / 100)).length = e + 1 :=
    ⟨_, (Nat.succ_pred_eq_of_pos hpos).symm⟩
  have hlt : k / 100 < 10 ^ (e + 1) := (hlength (e + 1) e.succ_pos).mp he.le
  have hle : 10 ^ e ≤ k / 100 := by
    rcases Nat.eq_zero_or_pos e with rfl | hpos
    · omega
    · exact Nat.not_lt.mp (mt (hlength e hpos).mpr (by omega))
  have hfour : e ≤ 4 := by
    by_contra hmany
    have hpow := Nat.pow_le_pow_right (n := 10) (by decide) (Nat.not_le.mp hmany)
    omega
  have hdigits : 100000 ≤ k * 10 ^ (5 - e) / 100 ∧ k * 10 ^ (5 - e) / 100 < 1000000 ∧
      k * 10 ^ (5 - e) / 100 * 100 = k * 10 ^ (5 - e) := by
    interval_cases e <;> omega
  exact ⟨⟨k * 10 ^ (5 - e) / 100, e⟩, ⟨hdigits.1, hdigits.2.1⟩, he, hfour, hdigits.2.2⟩

section Hundredths

variable {k : ℕ} (hlow : 100 ≤ k) (hhigh : k ≤ 1000000)
include hlow hhigh

theorem toBinary_hundredths_error :
    |(⟨k, 100⟩ : Ratio).toBinary.value - k / 100| ≤ 1 / 10 ^ 8 := by
  have herror := Ratio.toBinary_error (r := ⟨k, 100⟩) (Nat.succ_pos 99) hlow
  have hvalue : (⟨k, 100⟩ : Ratio).value = k / 100 := by rw [Ratio.value, Nat.cast_ofNat]
  have hbound : (k : ℚ) ≤ 1000000 := by exact_mod_cast hhigh
  rw [hvalue] at herror
  refine herror.trans ?_
  rw [div_div, div_le_div_iff₀ (by norm_num) (by norm_num)]
  linarith

theorem toBinary_hundredths_whole :
    (⟨k, 100⟩ : Ratio).toBinary.num / (⟨k, 100⟩ : Ratio).toBinary.den = k / 100 := by
  have hsplit : (k : ℚ) = 100 * (k / 100 : ℕ) + (k % 100 : ℕ) := by
    exact_mod_cast (Nat.div_add_mod k 100).symm
  rcases Nat.eq_zero_or_pos (k % 100) with hzero | hpos
  · have hvalue : (⟨k, 100⟩ : Ratio).value = (k / 100 : ℕ) := by
      rw [Ratio.value, hsplit, hzero]
      norm_num
    have hexact := Ratio.toBinary_value_of_eq (Nat.succ_pos 99) hvalue (by omega)
    exact Ratio.num_div_den_eq (Ratio.toBinary_den_pos _) hexact.ge (by rw [hexact]; linarith)
  · -- What is rounded does not reach the next whole number on either side.
    have hone : (1 : ℚ) ≤ (k % 100 : ℕ) := by exact_mod_cast hpos
    have hmost : ((k % 100 : ℕ) : ℚ) ≤ 99 := by exact_mod_cast (show k % 100 ≤ 99 by omega)
    have herror := abs_le.mp (toBinary_hundredths_error hlow hhigh)
    refine Ratio.num_div_den_eq (Ratio.toBinary_den_pos _) ?_ ?_
    · linarith [herror.1]
    · linarith [herror.2]

/-- Hundredths stay what they are on the way through a binary64 number to six digits. -/
theorem exists_ofRatio_hundredths :
    ∃ d : Decimal, ofRatio (⟨k, 100⟩ : Ratio).toBinary = d ∧ d.Normal ∧ d.exponent < 6 ∧
      d.value = k / 100 := by
  obtain ⟨d, hnormal, hlength, hexponent, hdigits⟩ := exists_sixDigits hlow hhigh
  have hscale : (5 - d.exponent : ℤ) = (5 - d.exponent : ℕ) := by omega
  have hplaces : (d.digits : ℚ) * 100 = k * 10 ^ (5 - d.exponent) := by exact_mod_cast hdigits
  have hpow : (10 : ℚ) ^ (5 - d.exponent) ≤ 10 ^ 5 :=
    pow_le_pow_right₀ (by norm_num) (Nat.sub_le 5 _)
  have hpos : (0 : ℚ) < 10 ^ (5 - d.exponent) := by positivity
  have hvalue : d.value = k / 100 := by
    have hneg : (d.exponent : ℤ) - 5 = -((5 - d.exponent : ℕ) : ℤ) := by omega
    rw [value, hneg, zpow_neg, zpow_natCast, ← div_eq_mul_inv, div_eq_div_iff hpos.ne' (by norm_num),
      hplaces]
  have hnear : |(⟨k, 100⟩ : Ratio).toBinary.value * 10 ^ (5 - d.exponent : ℤ) - d.digits| < 1 / 2 := by
    have hfactor : (d.digits : ℚ) = k / 100 * 10 ^ (5 - d.exponent) := by linarith
    rw [hscale, zpow_natCast, hfactor, ← sub_mul, abs_mul, abs_of_pos hpos]
    calc |(⟨k, 100⟩ : Ratio).toBinary.value - k / 100| * 10 ^ (5 - d.exponent)
        ≤ 1 / 10 ^ 8 * 10 ^ 5 :=
          mul_le_mul (toBinary_hundredths_error hlow hhigh) hpow hpos.le (by norm_num)
      _ < 1 / 2 := by norm_num
  refine ⟨d, ofRatio_eq (Ratio.toBinary_den_pos _) hnormal.digits_lt ?_ hnear, hnormal, by omega,
    hvalue⟩
  rwa [toBinary_hundredths_whole hlow hhigh]

end Hundredths

end Decimal
end ConfigAudit
