import ConfigAudit.Text.Basic

/-! Reading a whole number from text that people wrote. -/
namespace ConfigAudit

namespace Integer

/-- Why a text is not read as a whole number. -/
inductive Fault where
  | unreadable
  | tooLong
  deriving DecidableEq, Inhabited

/-- Blanks around a number; the four information separators are not among them. -/
def isPadding (c : Char) : Bool := Text.isBlank c && !(0x1C ≤ c.toNat && c.toNat ≤ 0x1F)

def trim (t : Text) : Text :=
  ((t.dropWhile isPadding).reverse.dropWhile isPadding).reverse

/-- What remains behind a zero that stands last so far. Zeros and underscores go, and a digit or a
minus sign begins the rest. The last character of the run stays before a point and at the end. -/
def afterZeros (last : Char) : Text → Option Text
  | [] => some [last]
  | c :: r =>
    if c = '0' ∨ c = '_' then afterZeros c r
    else if c = '.' then some (last :: c :: r)
    else if c.isDigit ∨ c = '-' then some (c :: r)
    else none

/-- A text that begins with a digit, without its leading zeros. -/
def withoutZeros : Text → Option Text
  | '0' :: r => afterZeros '0' r
  | c :: r => if c.isDigit then some (c :: r) else none
  | [] => none

/-- A fraction is dropped if it has digits and all of them are zeros. -/
def withoutFraction (t : Text) : Text :=
  let digits := (t.dropWhile (· ≠ '.')).drop 1
  if digits ≠ [] ∧ digits.all (· = '0') then t.takeWhile (· ≠ '.') else t

/-- Underscores are dropped if each of them separates two characters. -/
def withoutSeparators (t : Text) : Text :=
  let groups := t.split '_'
  if groups.all (· ≠ []) then groups.flatten else t

/-- The most digits that an integer may have, wherever it is read. -/
def maxDigits : Nat := 4300

/-- The value of a text of digits, which begins with a zero only if nothing follows. A number that
is too long is refused before what stands behind it is looked at. -/
def magnitude (t : Text) : Except Fault Nat :=
  let digits := t.takeWhile Char.isDigit
  if digits = [] ∨ (digits.head? = some '0' ∧ digits ≠ ['0']) then .error .unreadable
  else if maxDigits < digits.length then .error .tooLong
  else if digits.length < t.length then .error .unreadable
  else .ok (Nat.ofDigitChars 10 digits 0)

/-- A number with or without a minus sign. -/
def ofPlain : Text → Except Fault Int
  | '-' :: r => (magnitude r).map fun n => -Int.ofNat n
  | r => (magnitude r).map Int.ofNat

/-- A number with or without a sign, blanks around it, leading zeros, separators and a zero
fraction. -/
def ofText (t : Text) : Except Fault Int :=
  let plain (r : Text) : Option Text :=
    (withoutZeros r).map fun r => withoutSeparators (withoutFraction r)
  let cleaned : Option Text :=
    match trim t with
    | '+' :: r => plain r
    | '-' :: r => (plain r).map ('-' :: ·)
    | r => plain r
  match cleaned with
  | some r => ofPlain r
  | none => .error .unreadable

end Integer

/-- The words for a switch, in any case. -/
def Switch.ofText? (t : Text) : Option Bool :=
  let isOneOf (words : List Text) := words.contains (t.map Char.toLower)
  if isOneOf ["1", "true", "t", "yes", "y", "on"] then some true
  else if isOneOf ["0", "false", "f", "no", "n", "off"] then some false
  else none

end ConfigAudit
