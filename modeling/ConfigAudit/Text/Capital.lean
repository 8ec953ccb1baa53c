import ConfigAudit.Text.Basic

/-! Capitals, as far as they are ASCII letters. -/
namespace ConfigAudit.Text

/-- The capital form of a character, where it consists of ASCII letters: one letter, or the letters
of a ligature. Any other character stays. -/
def capital (c : Char) : Text :=
  if 'a' ≤ c ∧ c ≤ 'z' then [Char.ofNat (c.toNat - 0x20)]
  else match c with
    | '\u00DF' => "SS"
    | '\u0131' => "I"
    | '\u017F' => "S"
    | '\uFB00' => "FF"
    | '\uFB01' => "FI"
    | '\uFB02' => "FL"
    | '\uFB03' => "FFI"
    | '\uFB04' => "FFL"
    | '\uFB05' | '\uFB06' => "ST"
    | _ => [c]

/-- Equal to an ASCII text without small letters just if the capital form of the text is. -/
def capitals (t : Text) : Text := t.flatMap capital

end ConfigAudit.Text
