import ConfigAudit.Number.Nearest

/-! Sizes of files as people read them: two decimals in the largest unit that is reached. -/
namespace ConfigAudit

inductive SizeUnit where
  | bytes
  | kilobytes
  | megabytes
  | gigabytes
  deriving DecidableEq

namespace SizeUnit

/-- The number of bytes in a unit. -/
def worth : SizeUnit → Nat
  | bytes => 1
  | kilobytes => 1024
  | megabytes => 1048576
  | gigabytes => 1073741824

def label : SizeUnit → Text
  | bytes => "Bytes"
  | kilobytes => "KB"
  | megabytes => "MB"
  | gigabytes => "GB"

/-- The largest unit that a number of bytes reaches. -/
def reachedBy (size : Ratio) : SizeUnit :=
  if size.num < kilobytes.worth * size.den then bytes
  else if size.num < megabytes.worth * size.den then kilobytes
  else if size.num < gigabytes.worth * size.den then megabytes
  else gigabytes

end SizeUnit

namespace FileSize

/-- The decimal and the unit shown for a positive number of bytes, which is first taken to the
nearest binary64 number. The quotient is rounded to hundredths, and they to six digits. -/
def shown? (size : Nat) : Option (Decimal × SizeUnit) :=
  let bytes := (⟨size, 1⟩ : Ratio).toBinary
  if bytes.overflows then none
  else
    let unit := SizeUnit.reachedBy bytes
    let hundredths := (⟨bytes.num * 100, bytes.den * unit.worth⟩ : Ratio).nearest
    some (.ofRatio (⟨hundredths, 100⟩ : Ratio).toBinary, unit)

/-- There is no text for a size that exceeds the binary64 numbers. -/
def text? (size : Int) : Option Text :=
  if size ≤ 0 then some "0 Bytes"
  else (shown? size.toNat).map fun (d, unit) => d.text ++ ' ' :: unit.label

end FileSize
end ConfigAudit
