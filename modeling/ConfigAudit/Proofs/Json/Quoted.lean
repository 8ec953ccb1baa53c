import ConfigAudit.Json.Reader
import Mathlib.Tactic.Common

/-! Writing a text as a JSON string, which reads back as that text. -/
namespace ConfigAudit.Json

/-- A character inside a string: a quotation mark, a backslash and a control are escaped. -/
def escape (c : Char) : Text :=
  if c = '"' ∨ c = '\\' then ['\\', c]
  else if c.toNat < 0x20 then
    ['\\', 'u', '0', '0', Nat.digitChar (c.toNat / 0x10), Nat.digitChar (c.toNat % 0x10)]
  else [c]

def quote (t : Text) : Text := '"' :: (t.flatMap escape ++ ['"'])

private theorem hexDigit?_digitChar : ∀ n < 16, Text.hexDigit? (Nat.digitChar n) = some n := by
  decide

theorem readUnits_escape (c : Char) (t : Text) :
    readUnits (escape c ++ t) = (readUnits t).map fun (units, rest) => (c.toNat :: units, rest) := by
  unfold escape
  split_ifs with hmark hcontrol
  · -- The character behind the backslash is no `u`, so it is one that stands for itself.
    rcases hmark with rfl | rfl <;> simp [readUnits, escape?]
  · have hhigh := hexDigit?_digitChar (c.toNat / 0x10) (by omega)
    have hlow := hexDigit?_digitChar (c.toNat % 0x10) (by omega)
    have hzero : Text.hexDigit? '0' = some 0 := by decide
    have hvalue : c.toNat / 0x10 * 0x10 + c.toNat % 0x10 = c.toNat := by omega
    simp [readUnits, hzero, hhigh, hlow, hvalue]
  · obtain ⟨hquote, hslash⟩ := not_or.mp hmark
    rw [List.singleton_append, readUnits.eq_def]
    simp [hquote, hslash, hcontrol]

theorem readUnits_quoted (t r : Text) :
    readUnits (t.flatMap escape ++ '"' :: r) = some (t.map Char.toNat, r) := by
  induction t with
  | nil =>
    rw [List.flatMap_nil, List.nil_append, readUnits.eq_def]
    rfl
  | cons c t ih => simp [readUnits_escape, ih]

theorem not_isSurrogate_toNat (c : Char) : isSurrogate c.toNat = false := by
  have hvalid : c.toNat < 0xD800 ∨ 0xDFFF < c.toNat ∧ c.toNat < 0x110000 := c.valid
  simp only [isSurrogate, Bool.and_eq_false_iff, decide_eq_false_iff_not]
  omega

theorem codePoints_map_toNat (t : Text) : codePoints (t.map Char.toNat) = t.map Char.toNat := by
  induction t with
  | nil => rfl
  | cons c t ih =>
    cases t with
    | nil => rfl
    | cons d t =>
      have hc := not_isSurrogate_toNat c
      have hpair : ¬(0xD800 ≤ c.toNat ∧ c.toNat ≤ 0xDBFF ∧ 0xDC00 ≤ d.toNat ∧ d.toNat ≤ 0xDFFF) := by
        simp only [isSurrogate, Bool.and_eq_false_iff, decide_eq_false_iff_not] at hc
        omega
      rw [List.map_cons, List.map_cons, codePoints, if_neg hpair, ← List.map_cons, ih]

theorem ofUnits_map_toNat (t : Text) : ofUnits (t.map Char.toNat) = .str t := by
  simp [ofUnits, codePoints_map_toNat, not_isSurrogate_toNat, Function.comp_def]

theorem read_quote (t : Text) : read (quote t) = .ok (.str t) := by
  have hvalue (fuel : Nat) :
      readValue (fuel + 1) maxDepth (quote t) = .ok (.str t, []) := by
    simp [quote, readValue, readUnits_quoted, ofUnits_map_toNat]
  have hspace : skipSpace (quote t) = quote t := rfl
  rw [read, hspace, hvalue]
  rfl

end ConfigAudit.Json
