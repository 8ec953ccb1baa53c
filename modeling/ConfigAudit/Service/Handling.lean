import ConfigAudit.FileSize
import ConfigAudit.Json.Records
import ConfigAudit.Service.Basic
import ConfigAudit.Service.Refusal
import ConfigAudit.Text.Utf8

/-! Handling the three kinds of analysis. A text or a file first has to pass its gates, which go by
the settings of the moment. -/
namespace ConfigAudit

structure Upload where
  filename : Option Text := none
  contentType : Option Text := none
  content : List UInt8
  deriving DecidableEq, Inhabited

/-- An upload that has passed the gates. -/
structure AcceptedFile where
  filename : Text
  size : Nat
  config : Text
  deriving DecidableEq, Inhabited

structure TextReport where
  rating : Rating
  analysis : AuditResult
  textLength : Nat
  deriving DecidableEq, Inhabited

structure FileReport where
  filename : Text
  fileSize : Nat
  rating : Rating
  analysis : AuditResult
  deriving DecidableEq, Inhabited

def TextReport.toJson (r : TextReport) : Json :=
  .obj [("success", .bool true), ("rating", .str r.rating.label),
    ("analysis", r.analysis.toJson), ("textLength", .int r.textLength)]

def FileReport.toJson (r : FileReport) : Json :=
  .obj [("success", .bool true), ("filename", .str r.filename), ("fileSize", .int r.fileSize),
    ("fileSizeDisplay", .str ((FileSize.text? r.fileSize).getD [])),
    ("rating", .str r.rating.label), ("analysis", r.analysis.toJson)]

namespace Settings

/-- A failure is shown to those who debug. -/
def failure (s : Settings) (subject : Subject) (f : Failure) : Refusal :=
  .failed subject (if s.debug.isOn then some f else none)

def sizeRefusal? (s : Settings) (subject : Subject) (size : Nat) : Option Refusal :=
  match s.maxUploadSize.limit with
  | .ok limit =>
    if limit.isBelow size then some (.tooLarge (s.maxUploadSize.display .int)) else none
  | .error kind => some (s.failure subject (.incomparable '>' kind))

/-- What speaks against a text, which has to have the length that the settings ask for. -/
def problems (s : Settings) (config : Text) : Except Failure (List Implausibility) :=
  match s.minConfigLength.limit with
  | .ok limit => .ok (Implausibility.judge config (limit.isAbove config.length))
  | .error kind => .error (.incomparable '<' kind)

def plausibilityRefusal? (s : Settings) (subject : Subject) (config : Text) : Option Refusal :=
  match s.problems config with
  | .ok [] => none
  | .ok problems => some (.unfit problems)
  | .error f => some (s.failure subject f)

/-- The first gate that a text does not pass: it is blank, too large in UTF-8, or implausible. -/
def textRefusal? (s : Settings) (config : Text) : Option Refusal :=
  (if config.strip = [] then some .emptyText else none)
    |>.or (s.sizeRefusal? .text (Utf8.encode config).length)
    |>.or (s.plausibilityRefusal? .text config)

/-- A text file by its name or by its declared type. -/
def isTextFile (name : Text) (contentType : Option Text) : Bool :=
  (Text.lowercase name).endsWith ".txt" || contentType = some "text/plain"

/-- The first gate that a named file does not pass: it is no text file, too large, or implausible. -/
def fileRefusal? (s : Settings) (name : Text) (u : Upload) : Option Refusal :=
  (if isTextFile name u.contentType then none else some .unsupportedFile)
    |>.or (s.sizeRefusal? .file u.content.length)
    |>.or (s.plausibilityRefusal? .file (Utf8.decodeLossy u.content))

/-- An upload has to be there and to have a name before the other gates are tried. -/
def acceptFile (s : Settings) (upload : Option Upload) : Except Refusal AcceptedFile :=
  match upload with
  | none => .error .noFile
  | some u =>
    match u.filename with
    | none | some [] => .error .noFile
    | some name =>
      match s.fileRefusal? name u with
      | some refusal => .error refusal
      | none => .ok ⟨name, u.content.length, Utf8.decodeLossy u.content⟩

end Settings

namespace Service

/-- An analysis that is refused if it fails. A failing engine leaves the auditor alone. -/
def tryAnalyze (s : Service) (engine : Engine) (subject : Subject) (config : Text)
    (password : Option Text) : Except Refusal AuditResult × Service :=
  match engine with
  | .working =>
    let (result, s) := s.analyze config password
    (result.mapError (s.settings.failure subject), s)
  | .failing message => (.error (s.settings.failure subject (.engine message)), s)

def handleText (s : Service) (engine : Engine) (r : TextRequest) :
    Except Refusal TextReport × Service :=
  match s.settings.textRefusal? r.configText with
  | some refusal => (.error refusal, s)
  | none =>
    let (outcome, s) := s.tryAnalyze engine .text r.configText r.password
    (outcome.map fun a => ⟨.ofScore a.securityScore, a, r.configText.length⟩, s)

/-- The second upload is looked at only if the first one is absent. -/
def handleFile (s : Service) (engine : Engine) (file configFile : Option Upload)
    (password : Option Text) : Except Refusal FileReport × Service :=
  match s.settings.acceptFile (file.or configFile) with
  | .error refusal => (.error refusal, s)
  | .ok f =>
    let (outcome, s) := s.tryAnalyze engine .file f.config password
    (outcome.map fun a => ⟨f.filename, f.size, .ofScore a.securityScore, a⟩, s)

/-- A failure is passed on as it is. -/
def handlePassword (s : Service) (engine : Engine) (r : PasswordRequest) :
    Except Failure PasswordAnalysis × Service :=
  match engine with
  | .working => s.analyzePassword r.password
  | .failing message => (.error (.engine message), s)

end Service
end ConfigAudit
