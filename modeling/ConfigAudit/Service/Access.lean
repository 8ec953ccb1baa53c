import ConfigAudit.Service.Refusal
import ConfigAudit.Settings.Basic
import ConfigAudit.Text.Utf8

/-! Access by API key. -/
namespace ConfigAudit

/-- A caller that was let in: without a key, where none is asked for, or with the right one. -/
inductive Caller where
  | anonymous
  | static
  deriving DecidableEq, Inhabited

def Caller.label : Caller → Text
  | anonymous => "anonymous"
  | static => "static"

namespace Settings

/-- The key in the settings, if it is a text. -/
def keyText? (s : Settings) : Option Text :=
  match s.apiKey with
  | .proper key => key
  | .foreign _ => none

/-- Keys are compared by their UTF-8 bytes. A key that is empty counts as missing. -/
def authenticate (s : Settings) (key : Option Text) : Except Refusal Caller :=
  if !s.isAuthEnabled then .ok .anonymous
  else
    match key with
    | none | some [] => .error .missingKey
    | some k =>
      if s.keyText?.any fun expected => Utf8.encode k = Utf8.encode expected then .ok .static
      else .error .invalidKey

/-- Why a key that was sent cannot be compared with the one in the settings, if that has no
encoding. -/
def keyFailure? (s : Settings) (key : Option Text) : Option Failure :=
  match s.apiKey, key with
  | .foreign (.broken codePoints), some (_ :: _) => some (.unencodable codePoints)
  | _, _ => none

end Settings
end ConfigAudit
