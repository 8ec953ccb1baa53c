import ConfigAudit.Text.Basic

/-! Rounding of positive ratios to the nearest integer, binary64 number and decimal. A tie goes to
the even neighbour. -/
namespace ConfigAudit

structure Ratio where
  num : Nat
  den : Nat
  deriving DecidableEq

namespace Ratio

/-- The integer nearest to a ratio. -/
def nearest (r : Ratio) : Nat :=
  let q := r.num / r.den
  let rest := 2 * (r.num % r.den)
  if rest < r.den then q else if r.den < rest then q + 1 else q + q % 2

/-- A ratio times an integral power of a base. -/
def scale (r : Ratio) (base : Nat) : Int → Ratio
  | .ofNat e => ⟨r.num * base.pow e, r.den⟩
  | .negSucc e => ⟨r.num, r.den * base.pow (e + 1)⟩

/-- The number with 53 significant bits nearest to a ratio that is at least one. -/
def toBinary (r : Ratio) : Ratio :=
  let e : Int := 52 - Nat.log2 (r.num / r.den)
  (⟨(r.scale 2 e).nearest, 1⟩ : Ratio).scale 2 (-e)

/-- Beyond every binary64 number. -/
def overflows (r : Ratio) : Bool := Nat.pow 2 1024 * r.den ≤ r.num

end Ratio

/-- The number `digits × 10 ^ (exponent - 5)`. -/
structure Decimal where
  digits : Nat
  exponent : Nat
  deriving DecidableEq

namespace Decimal

/-- The decimal with six significant digits nearest to a ratio that is at least one. -/
def ofRatio (r : Ratio) : Decimal :=
  let exponent := (Text.ofNat (r.num / r.den)).length - 1
  let digits := (r.scale 10 (5 - exponent)).nearest
  if digits < 1000000 then ⟨digits, exponent⟩ else ⟨digits / 10, exponent + 1⟩

/-- A fraction without the zeros at its end, and without its point if nothing is left. -/
def fraction (digits : Text) : Text :=
  let kept := (digits.reverse.dropWhile (· = '0')).reverse
  if kept = [] then [] else '.' :: kept

/-- Positional below one million, with an exponent of at least two digits from there on. -/
def text (d : Decimal) : Text :=
  let digits := Text.ofNat d.digits
  if d.exponent < 6 then digits.take (d.exponent + 1) ++ fraction (digits.drop (d.exponent + 1))
  else
    digits.take 1 ++ fraction (digits.drop 1) ++ "e+" ++
      (if d.exponent < 10 then ['0'] else []) ++ Text.ofNat d.exponent

end Decimal
end ConfigAudit
