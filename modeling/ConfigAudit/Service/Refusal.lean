import ConfigAudit.Device.Plausibility
import ConfigAudit.Service.Failure

/-! Why the service refuses a request, and how it says so. -/
namespace ConfigAudit

/-- What a request wanted analyzed. -/
inductive Subject where
  | text
  | file
  deriving DecidableEq, Inhabited

def Subject.label : Subject → Text
  | text => "text"
  | file => "file"

inductive Refusal where
  | missingKey
  | invalidKey
  | emptyText
  | noFile
  | unsupportedFile
  /-- The limit is there as it is shown. -/
  | tooLarge (limit : Text)
  | unfit (problems : List Implausibility)
  /-- The analysis failed; the failure is there if it may be shown. -/
  | failed (subject : Subject) (shown : Option Failure)
  deriving DecidableEq, Inhabited

namespace Refusal

def status : Refusal → Nat
  | missingKey | invalidKey => 401
  | emptyText | noFile | unsupportedFile | unfit _ => 400
  | tooLarge _ => 413
  | failed _ _ => 500

def detail : Refusal → Text
  | missingKey => "Missing API key"
  | invalidKey => "Invalid API key"
  | emptyText => "Configuration text is empty."
  | noFile => "No configuration file provided. Please upload a .txt file."
  | unsupportedFile => "Only .txt files are supported"
  | tooLarge limit =>
    "Configuration exceeds maximum allowed size of " ++ limit ++ " bytes"
  | unfit problems => Text.join "; " (problems.map (·.message))
  | failed subject none => "Failed to analyze configuration " ++ subject.label ++ "."
  | failed subject (some failure) =>
    "Failed to analyze configuration " ++ subject.label ++ ": " ++ failure.label ++ ": " ++
      failure.message

/-- Whether the answer names the scheme of authentication. -/
def challenges : Refusal → Bool
  | missingKey | invalidKey => true
  | _ => false

end Refusal
end ConfigAudit
