import ConfigAudit.Json.Decoder
import ConfigAudit.Json.Misfit
import ConfigAudit.Policy

/-! The settings of the service. -/
namespace ConfigAudit

/-- A number that a size is compared with. -/
inductive Limit where
  | whole (n : Int)
  | real (x : Binary64)
  deriving DecidableEq, Inhabited

namespace Limit

/-- Whether a size is beyond the limit. -/
def isBelow (size : Nat) : Limit → Bool
  | whole n => n < size
  | real x => x.isBelow size

/-- Whether a size falls short of the limit. -/
def isAbove (size : Nat) : Limit → Bool
  | whole n => size < n
  | real x => x.isAbove size

end Limit

/-- A setting holds a value of its own kind, or whatever else was assigned to it: assignments are
not checked. -/
inductive Setting (α : Type) where
  | proper (value : α)
  | foreign (value : Json)

namespace Setting

def toJson (encode : α → Json) : Setting α → Json
  | proper value => encode value
  | foreign value => value

/-- The text of a setting inside a sentence. -/
def display (encode : α → Json) (x : Setting α) : Text := (x.toJson encode).display

/-- Whether a switch counts as on, where anything but an empty value does. -/
def isOn : Setting Bool → Bool
  | proper value => value
  | foreign value => value.isTruthy

/-- The number that a limit stands for. A boolean counts as zero or one; of another value, which
cannot be compared with a number, the kind is given. -/
def limit : Setting Int → Except Text Limit
  | proper value => .ok (.whole value)
  | foreign (.int n) => .ok (.whole n)
  | foreign (.real t) => .ok (.real (.ofLiteral t))
  | foreign (.bool b) => .ok (.whole (if b then 1 else 0))
  | foreign value => .error value.kind

/-- The choice that a switch stands for when it is checked as the field of that name. -/
def choice (field : Text) : Setting Bool → Checked Misfit Bool
  | proper value => .ok value
  | foreign value => ((Decoder.boolean value).within (.key field)).mapFaults (.ofValue value)

end Setting

structure Settings where
  appName : Setting Text := .proper "Network Configuration Auditor"
  appVersion : Setting Text := .proper "1.0.0"
  appEnv : Setting Text := .proper "local"
  /-- Whether error answers show the text of a failure. -/
  debug : Setting Bool := .proper false
  corsOrigins : Json := .texts ["http://localhost:3000", "http://localhost:8000"]
  maxUploadSize : Setting Int := .proper 10485760
  minConfigLength : Setting Int := .proper 10
  extendedBestPractices : Setting Bool := .proper true
  weakPasswordCaseSensitive : Setting Bool := .proper false
  keywordCredentials : Setting Bool := .proper false
  skipCommentLines : Setting Bool := .proper false
  logLevel : Setting Text := .proper "INFO"
  logDir : Setting Text := .proper "logs"
  apiKey : Setting (Option Text) := .proper none

namespace Settings

instance : Inhabited Settings := ⟨{}⟩

/-- Requests need the key unless it is blank. Of other values, only a string in which a surrogate
stands alone is a key: one that cannot be blank. -/
def isAuthEnabled (s : Settings) : Bool :=
  match s.apiKey with
  | .proper key => key.any fun k => k.strip ≠ []
  | .foreign (.broken _) => true
  | .foreign _ => false

/-- The policy of the auditor that these settings ask for, unless a switch is none. -/
def policy (s : Settings) : Checked Misfit Policy :=
  (fun caseSensitive extended keyword skip =>
    { weakPasswordCaseSensitive := caseSensitive
      extendedBestPractices := extended
      keywordCredentials := keyword
      skipCommentLines := skip })
    <$> s.weakPasswordCaseSensitive.choice "weak_password_case_sensitive"
    <*> s.extendedBestPractices.choice "extended_best_practices"
    <*> s.keywordCredentials.choice "keyword_credentials"
    <*> s.skipCommentLines.choice "skip_comment_lines"

def toJson (s : Settings) : Json :=
  .obj [("APP_NAME", s.appName.toJson .str), ("APP_VERSION", s.appVersion.toJson .str),
    ("APP_ENV", s.appEnv.toJson .str), ("DEBUG", s.debug.toJson .bool),
    ("CORS_ORIGINS", s.corsOrigins), ("MAX_UPLOAD_SIZE", s.maxUploadSize.toJson .int),
    ("MIN_CONFIG_LENGTH", s.minConfigLength.toJson .int),
    ("EXTENDED_BEST_PRACTICES", s.extendedBestPractices.toJson .bool),
    ("WEAK_PASSWORD_CASE_SENSITIVE", s.weakPasswordCaseSensitive.toJson .bool),
    ("KEYWORD_CREDENTIALS", s.keywordCredentials.toJson .bool),
    ("SKIP_COMMENT_LINES", s.skipCommentLines.toJson .bool),
    ("LOG_LEVEL", s.logLevel.toJson .str), ("LOG_DIR", s.logDir.toJson .str),
    ("API_KEY", s.apiKey.toJson .optionalText)]

def textSetting : Json → Setting Text
  | .str t => .proper t
  | j => .foreign j

def numberSetting : Json → Setting Int
  | .int n => .proper n
  | j => .foreign j

def switchSetting : Json → Setting Bool
  | .bool b => .proper b
  | j => .foreign j

def keySetting : Json → Setting (Option Text)
  | .str t => .proper (some t)
  | .null => .proper none
  | j => .foreign j

/-- Changes one setting. An unknown name changes nothing. -/
def assign (s : Settings) (name : Text) (value : Json) : Settings :=
  match String.ofList name with
  | "APP_NAME" => { s with appName := textSetting value }
  | "APP_VERSION" => { s with appVersion := textSetting value }
  | "APP_ENV" => { s with appEnv := textSetting value }
  | "DEBUG" => { s with debug := switchSetting value }
  | "CORS_ORIGINS" => { s with corsOrigins := value }
  | "MAX_UPLOAD_SIZE" => { s with maxUploadSize := numberSetting value }
  | "MIN_CONFIG_LENGTH" => { s with minConfigLength := numberSetting value }
  | "EXTENDED_BEST_PRACTICES" => { s with extendedBestPractices := switchSetting value }
  | "WEAK_PASSWORD_CASE_SENSITIVE" => { s with weakPasswordCaseSensitive := switchSetting value }
  | "KEYWORD_CREDENTIALS" => { s with keywordCredentials := switchSetting value }
  | "SKIP_COMMENT_LINES" => { s with skipCommentLines := switchSetting value }
  | "LOG_LEVEL" => { s with logLevel := textSetting value }
  | "LOG_DIR" => { s with logDir := textSetting value }
  | "API_KEY" => { s with apiKey := keySetting value }
  | _ => s

end Settings
end ConfigAudit
