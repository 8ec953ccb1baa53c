import ConfigAudit.Json.Decoder
import ConfigAudit.Json.Reader
import ConfigAudit.Settings.Basic
import ConfigAudit.Settings.EnvFile

/-! Loading the settings from environment variables and an env file. -/
namespace ConfigAudit.Settings

/-- The origins that a text lists: any JSON value, or else names with commas between them. -/
def originsOfText (t : Text) : Except Json.ReadFault Json :=
  match Json.read t with
  | .ok j => .ok j
  | .error .malformed => .ok (.texts (((t.split ',').map Text.strip).filter (· ≠ [])))
  | .error fault => .error fault

def origins : Json → Except Json.ReadFault Json
  | .str t => originsOfText t
  | j => .ok j

def decodeOriginsText (t : Text) : Decoded Json :=
  match originsOfText t with
  | .ok j => .ok j
  | .error fault => .fault (.unreadableJson fault)

/-- A text or a list of texts is accepted. What a text lists is not looked at again. -/
def decodeOrigins : Decoder Json := fun j =>
  match Decoder.str j, Decoder.list Decoder.str j with
  | .ok t, _ => decodeOriginsText t
  | _, .ok l => .ok (.texts l)
  | .faulty e, .faulty e' =>
    .faulty (e.map (·.within (.key "str")) ++ e'.map (·.within (.key "list[str]")))

/-- Where settings come from: the variables that are set, and those that a file assigns. -/
structure Sources where
  environment : List (Text × Text)
  file : List (Text × Option Text)

namespace Sources

/-- The value of a name in each source that has one, the first of which counts. -/
def candidates (s : Sources) (name : Text) : List Text :=
  (EnvFile.latest? name s.environment).toList ++ (EnvFile.latest? name s.file).join.toList

def setting (s : Sources) (name : Text) (default : Setting α) (d : Decoder α) :
    Decoded (Setting α) :=
  match s.candidates name with
  | raw :: _ => .proper <$> (d (.str raw)).within (.key name)
  | [] => .ok default

/-- The value that a source gives for a list, or none if it says so. -/
def listValue? (raw : Text) : Option Json :=
  match Json.read raw with
  | .ok .null => none
  | .ok j => some j
  | .error _ => some (.str raw)

def listSetting (s : Sources) (name : Text) (default : α) (d : Decoder α) : Decoded α :=
  match (s.candidates name).filterMap listValue? with
  | j :: _ => (d j).within (.key name)
  | [] => .ok default

end Sources

def ofSources (s : Sources) : Decoded Settings :=
  let initial : Settings := {}
  let text name default := s.setting name default Decoder.str
  let flag name default := s.setting name default Decoder.boolean
  let number name default := s.setting name default Decoder.integer
  Settings.mk <$> text "APP_NAME" initial.appName
    <*> text "APP_VERSION" initial.appVersion
    <*> text "APP_ENV" initial.appEnv
    <*> flag "DEBUG" initial.debug
    <*> s.listSetting "CORS_ORIGINS" initial.corsOrigins decodeOrigins
    <*> number "MAX_UPLOAD_SIZE" initial.maxUploadSize
    <*> number "MIN_CONFIG_LENGTH" initial.minConfigLength
    <*> flag "EXTENDED_BEST_PRACTICES" initial.extendedBestPractices
    <*> flag "WEAK_PASSWORD_CASE_SENSITIVE" initial.weakPasswordCaseSensitive
    <*> flag "KEYWORD_CREDENTIALS" initial.keywordCredentials
    <*> flag "SKIP_COMMENT_LINES" initial.skipCommentLines
    <*> text "LOG_LEVEL" initial.logLevel
    <*> text "LOG_DIR" initial.logDir
    <*> s.setting "API_KEY" initial.apiKey (Decoder.nullable Decoder.str)

/-- The settings for some environment variables and the text of an env file. Names are
case-sensitive, and the environment wins over the file. -/
def load (environment : List (Text × Text)) (file : Text) : Decoded Settings :=
  ofSources ⟨environment, EnvFile.read environment file⟩

end ConfigAudit.Settings
