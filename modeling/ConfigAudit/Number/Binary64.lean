import ConfigAudit.Number.Nearest

/-! Binary64 numbers: how they are read off a literal, compared with integers, and written with the
fewest digits that are read back as the same number. -/
namespace ConfigAudit

/-- A finite number is a significand times a power of two. Unless the exponent is the least one, the
significand has 53 bits, so each number is written in one way. -/
inductive Binary64 where
  | nan
  | infinite (negative : Bool)
  | finite (negative : Bool) (significand : Nat) (exponent : Int)
  deriving DecidableEq, Inhabited

namespace Binary64

def minExponent : Int := -1074

def maxExponent : Int := 971

/-- The integer `k` for which a positive ratio lies between `2 ^ k` and `2 ^ (k + 1)`. -/
def log2 (r : Ratio) : Int :=
  let k : Int := Nat.log2 r.num - Nat.log2 r.den
  let unit := r.scale 2 (-k)
  if unit.den ≤ unit.num then k else k - 1

/-- A finite number, unless its exponent is beyond the greatest one. -/
def bounded (negative : Bool) (significand : Nat) (exponent : Int) : Binary64 :=
  if maxExponent < exponent then infinite negative else finite negative significand exponent

/-- The number of a significand that was rounded, for which it may have got a 54th bit. -/
def ofRounded (negative : Bool) (significand : Nat) (exponent : Int) : Binary64 :=
  if significand = 0x20000000000000 then bounded negative 0x10000000000000 (exponent + 1)
  else bounded negative significand exponent

/-- The number nearest to a ratio with a sign. A tie goes to the even significand. -/
def ofRatio (negative : Bool) (r : Ratio) : Binary64 :=
  if r.num = 0 then finite negative 0 minExponent
  else
    let exponent := max (log2 r - 52) minExponent
    ofRounded negative (r.scale 2 (-exponent)).nearest exponent

/-- The number nearest to `digits × 10 ^ exponent`. What is far out of range is not computed. -/
def ofDecimal (negative : Bool) (digits : Text) (exponent : Int) : Binary64 :=
  let digits := digits.dropWhile (· = '0')
  let point := digits.length + exponent
  if digits = [] ∨ point < -330 then finite negative 0 minExponent
  else if 310 < point then infinite negative
  else ofRatio negative ((⟨Nat.ofDigitChars 10 digits 0, 1⟩ : Ratio).scale 10 exponent)

/-- The integer that digits behind an optional sign stand for. -/
def signedValue : Text → Int
  | '-' :: digits => -Nat.ofDigitChars 10 digits 0
  | '+' :: digits => Nat.ofDigitChars 10 digits 0
  | digits => Nat.ofDigitChars 10 digits 0

/-- A number with an optional sign, fraction and exponent. -/
def ofNumeral (t : Text) : Binary64 :=
  let negative := t.startsWith "-"
  let magnitude := if negative then t.drop 1 else t
  let isExponentMark (c : Char) := c = 'e' || c = 'E'
  let mantissa := magnitude.takeWhile (!isExponentMark ·)
  let exponent := (magnitude.dropWhile (!isExponentMark ·)).drop 1
  let fraction := (mantissa.dropWhile (· ≠ '.')).drop 1
  ofDecimal negative (mantissa.takeWhile (· ≠ '.') ++ fraction)
    (signedValue exponent - fraction.length)

/-- The number of a literal, which may be one of three names. -/
def ofLiteral (t : Text) : Binary64 :=
  if t = "NaN" then nan
  else if t = "Infinity" then infinite false
  else if t = "-Infinity" then infinite true
  else ofNumeral t

/-- The distance of a finite number from zero. -/
def magnitude (significand : Nat) (exponent : Int) : Ratio :=
  (⟨significand, 1⟩ : Ratio).scale 2 exponent

/-- Whether a number is less than an integer. Nothing holds of what is no number. -/
def isBelow (n : Int) : Binary64 → Bool
  | nan => false
  | infinite negative => negative
  | finite negative significand exponent =>
    let r := magnitude significand exponent
    (if negative then -Int.ofNat r.num else r.num) < n * r.den

/-- Whether a number is greater than an integer. -/
def isAbove (n : Int) : Binary64 → Bool
  | nan => false
  | infinite negative => !negative
  | finite negative significand exponent =>
    let r := magnitude significand exponent
    n * r.den < (if negative then -Int.ofNat r.num else r.num)

def isZero : Binary64 → Bool
  | finite _ significand _ => significand = 0
  | _ => false

/-- Why a number is no integer. -/
inductive IntegerFault where
  | notFinite
  | fractional
  deriving DecidableEq, Inhabited

def toInteger : Binary64 → Except IntegerFault Int
  | finite negative significand exponent =>
    let r := magnitude significand exponent
    if r.num % r.den ≠ 0 then .error .fractional
    else
      let n : Int := (r.num / r.den : Nat)
      .ok (if negative then -n else n)
  | _ => .error .notFinite

/-- The place of the decimal point of a positive ratio: it is less than `10 ^ point`, and not less
than a tenth of that. No binary64 number has more than 330 zeros behind the point. -/
def point (r : Ratio) : Int :=
  (Text.ofNat ((r.scale 10 330).num / r.den)).length - 330

/-- The nearest decimal with some number of digits that is read as a number, if there is one. It is
next to the number, on one side or the other: the gaps above and below a power of two differ. -/
def digitsFor? (significand : Nat) (exponent : Int) (count : Nat) : Option (Text × Int) :=
  let r := magnitude significand exponent
  let last := point r - count
  let scaled := r.scale 10 (-last)
  let below := scaled.num / scaled.den
  let nearest := scaled.nearest
  let candidates := [nearest, if nearest = below then below + 1 else below]
  let isRead (digits : Nat) :=
    ofRatio false ((⟨digits, 1⟩ : Ratio).scale 10 last) = finite false significand exponent
  (candidates.find? isRead).map fun digits =>
    let written := Text.ofNat digits
    ((written.reverse.dropWhile (· = '0')).reverse, written.length + last)

/-- The fewest digits that are read as a number other than zero, and the place of the point before or
behind them. Seventeen are always enough. -/
def digits (significand : Nat) (exponent : Int) : Text × Int :=
  ((List.range 17).findSome? fun i => digitsFor? significand exponent (i + 1)).getD ([], 0)

/-- Digits with a decimal point at some place. -/
def positional (digits : Text) (point : Int) : Text :=
  if point ≤ 0 then "0." ++ List.replicate point.natAbs '0' ++ digits
  else
    let whole := digits.take point.toNat
    let rest := digits.drop point.toNat
    whole ++ List.replicate (point.toNat - whole.length) '0' ++ '.' ::
      if rest = [] then ['0'] else rest

/-- Digits with an exponent of at least two digits. -/
def exponential (digits : Text) (point : Int) : Text :=
  let exponent := point - 1
  let written := Text.ofNat exponent.natAbs
  digits.take 1 ++ (if digits.length = 1 then [] else '.' :: digits.drop 1) ++
    (if exponent < 0 then "e-" else "e+") ++ (if written.length < 2 then '0' :: written else written)

/-- A number as it is shown: positional from one ten-thousandth up to 16 digits. -/
def text : Binary64 → Text
  | nan => "nan"
  | infinite negative => if negative then "-inf" else "inf"
  | finite negative significand exponent =>
    let sign : Text := if negative then ['-'] else []
    if significand = 0 then sign ++ "0.0"
    else
      let (shown, point) := digits significand exponent
      sign ++ if -4 < point ∧ point ≤ 16 then positional shown point else exponential shown point

end Binary64
end ConfigAudit
