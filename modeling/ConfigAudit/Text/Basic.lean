/-! Texts as lists of code points: blanks, words, separators and substring search. -/
namespace ConfigAudit

/-- A text is the list of its code points, so a length counts code points. -/
abbrev Text := List Char

/-- A literal stands for its code points. -/
instance : Coe String Text := ⟨String.toList⟩

namespace Text

/-- White space: the ASCII controls that separate, the space, and the Unicode separators. -/
def isBlank (c : Char) : Bool :=
  let n := c.toNat
  (0x09 ≤ n && n ≤ 0x0D) || (0x1C ≤ n && n ≤ 0x20) || n == 0x85 || n == 0xA0 || n == 0x1680 ||
    (0x2000 ≤ n && n ≤ 0x200A) || n == 0x2028 || n == 0x2029 || n == 0x202F || n == 0x205F ||
    n == 0x3000

/-- Without the blanks at its end. -/
def stripRight (t : Text) : Text := (t.reverse.dropWhile isBlank).reverse

/-- Without the blanks at either end. -/
def strip (t : Text) : Text := stripRight (t.dropWhile isBlank)

/-- The maximal runs of characters that are not blank. -/
def words : Text → List Text
  | [] => []
  | c :: r =>
    if isBlank c then words r
    else match r with
      | [] => [[c]]
      | d :: _ => if isBlank d then [c] :: words r else (words r).modifyHead (c :: ·)

/-- The pieces between the occurrences of a separator: one more than there are occurrences. -/
def split (separator : Char) : Text → List Text
  | [] => [[]]
  | c :: r =>
    if c = separator then [] :: split separator r else (split separator r).modifyHead (c :: ·)

/-- What follows the first occurrence of a pattern. -/
def afterFirst (pattern : Text) : Text → Option Text
  | [] => if pattern = [] then some [] else none
  | c :: r =>
    if pattern.isPrefixOf (c :: r) then some ((c :: r).drop pattern.length)
    else afterFirst pattern r

def includes (t pattern : Text) : Bool := (afterFirst pattern t).isSome

def startsWith (t pattern : Text) : Bool := pattern.isPrefixOf t

def endsWith (t pattern : Text) : Bool := pattern.isSuffixOf t

/-- The value of a hexadecimal digit in either case. -/
def hexDigit? (c : Char) : Option Nat :=
  let n := c.toNat
  if 0x30 ≤ n ∧ n ≤ 0x39 then some (n - 0x30)
  else if 0x41 ≤ n ∧ n ≤ 0x46 then some (n - 0x37)
  else if 0x61 ≤ n ∧ n ≤ 0x66 then some (n - 0x57)
  else none

def join (separator : Text) (pieces : List Text) : Text := List.intercalate separator pieces

def ofNat (n : Nat) : Text := Nat.toDigits 10 n

def ofInt : Int → Text
  | .ofNat n => ofNat n
  | .negSucc n => '-' :: ofNat (n + 1)

end Text
end ConfigAudit
