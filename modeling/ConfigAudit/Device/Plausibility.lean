import ConfigAudit.Text.Lowercase

/-! Whether a text looks like a device configuration at all. -/
namespace ConfigAudit

inductive Implausibility where
  | empty
  | tooShort
  | unrecognized
  deriving DecidableEq, Inhabited

namespace Implausibility

def message : Implausibility → Text
  | empty => "Configuration file is empty"
  | tooShort => "Configuration file is too short"
  | unrecognized => "File does not appear to be a valid network configuration"

/-- A configuration has at least one of these words, in any case. -/
def keywords : List Text := ["interface", "ip", "router", "line", "access"]

/-- All that speaks against a text, which may be short of the length that is asked for. -/
def judge (content : Text) (isShort : Bool) : List Implausibility :=
  (if content.strip = [] then [empty] else []) ++ (if isShort then [tooShort] else []) ++
    (if keywords.any fun k => (Text.lowercase content).includes k then [] else [unrecognized])

/-- All that speaks against a text of a length that has to reach a number. -/
def of (content : Text) (minLength : Int) : List Implausibility :=
  judge content (content.length < minLength)

end Implausibility

structure ContentValidation where
  valid : Bool := true
  errors : List Text := []
  deriving DecidableEq, Inhabited

def ContentValidation.ofProblems (problems : List Implausibility) : ContentValidation :=
  ⟨problems.isEmpty, problems.map (·.message)⟩

def ContentValidation.of (content : Text) (minLength : Int) : ContentValidation :=
  .ofProblems (Implausibility.of content minLength)

end ConfigAudit
