import ConfigAudit.Text.Basic
import ConfigAudit.Text.LetterCase

/-! Full lowercase mapping of a text. One capital becomes two code points, and the capital sigma
takes its final form at the end of a word. -/
namespace ConfigAudit.Text

def lowerCode (n : Nat) : Nat :=
  if n < 0x80 then if 0x41 ≤ n && n ≤ 0x5A then n + 0x20 else n
  else match caseRanges.find? (·.covers n) with
    | some r => r.lower + (n - r.first)
    | none => n

/-- The first character that is not case-ignorable is a cased one. -/
def meetsCased (t : Text) : Bool :=
  match t.dropWhile (inRanges caseIgnorableRanges) with
  | [] => false
  | c :: _ => inRanges casedRanges c

/-- The lowercase form of a character between two texts; the one before it is reversed. -/
def lowerBetween (before : Text) (c : Char) (after : Text) : Text :=
  if c = '\u0130' then ['i', '\u0307']
  else if c = '\u03A3' then
    [if meetsCased before && !meetsCased after then '\u03C2' else '\u03C3']
  else [Char.ofNat (lowerCode c.toNat)]

def lowerAfter (before : Text) : Text → Text
  | [] => []
  | c :: r => lowerBetween before c r ++ lowerAfter (c :: before) r

def lowercase (t : Text) : Text := lowerAfter [] t

end ConfigAudit.Text
