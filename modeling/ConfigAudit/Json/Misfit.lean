import ConfigAudit.Json.Display
import ConfigAudit.Json.Fault
import ConfigAudit.Text.Abridged

/-! Faults told together with the values at fault. -/
namespace ConfigAudit

/-- A fault, and the value at fault as it is shown, with its kind. -/
structure Misfit where
  fault : Fault
  shown : Text
  kind : Text
  deriving DecidableEq, Inhabited

namespace Misfit

def ofValue (j : Json) (f : Fault) : Misfit := ⟨f, j.literal, j.kind⟩

/-- Where the manual explains a cause. -/
def manual (c : Cause) : Text := "https://errors.pydantic.dev/2.14/v/" ++ c.code

/-- The place of the fault, what is wrong there, and where to read on, each on a line. -/
def report (m : Misfit) : Text :=
  m.fault.location ++ "\n  " ++ m.fault.cause.message ++
    " [type=" ++ m.fault.cause.code ++ ", input_value=" ++ m.shown.abridged ++
    ", input_type=" ++ m.kind ++ "]\n    For further information visit " ++ manual m.fault.cause

end Misfit
end ConfigAudit
