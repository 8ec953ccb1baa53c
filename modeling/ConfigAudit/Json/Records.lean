import ConfigAudit.Audit.Result
import ConfigAudit.Device.Plausibility
import ConfigAudit.Json.Decoder
import ConfigAudit.Text.Quoted

/-! The JSON form of the records: what is written, and what is accepted. -/
namespace ConfigAudit

open Decoder (str integer boolean nullable list tuple record choice)
open FieldName (required optional)

/-! The fields that are written under one name and read under another one too. -/

namespace FieldName

def ipAddress : FieldName := ⟨"ipAddress", "ip_address"⟩
def lineNumber : FieldName := ⟨"lineNumber", "line_number"⟩
def accessClass : FieldName := ⟨"accessClass", "access_class"⟩
def totalInterfaces : FieldName := ⟨"totalInterfaces", "total_interfaces"⟩
def totalVtyLines : FieldName := ⟨"totalVTYLines", "total_vty_lines"⟩
def totalAcls : FieldName := ⟨"totalACLs", "total_acls"⟩
def vtyLines : FieldName := ⟨"vtyLines", "vty_lines"⟩
def reference : FieldName := ⟨"cve", "reference_id"⟩
def totalIssues : FieldName := ⟨"totalIssues", "total_issues"⟩
def securityScore : FieldName := ⟨"securityScore", "security_score"⟩
def passwordAnalysis : FieldName := ⟨"passwordAnalysis", "password_analysis"⟩
def configSummary : FieldName := ⟨"configSummary", "config_summary"⟩
def configText : FieldName := ⟨"configText", "config_text"⟩

end FieldName

instance : Choice InterfaceStatus where
  choices := [.active, .shutdown, .unknown]
  label
    | .active => "active"
    | .shutdown => "shutdown"
    | .unknown => "unknown"

instance : LawfulChoice InterfaceStatus where
  mem_choices a := by cases a <;> decide
  label_injective {a b} := by cases a <;> cases b <;> decide

instance : Choice Severity where
  choices := [.critical, .high, .medium, .low]
  label
    | .critical => "CRITICAL"
    | .high => "HIGH"
    | .medium => "MEDIUM"
    | .low => "LOW"

instance : LawfulChoice Severity where
  mem_choices a := by cases a <;> decide
  label_injective {a b} := by cases a <;> cases b <;> decide

instance : Choice Strength where
  choices := [.critical, .weak, .moderate, .strong]
  label
    | .critical => "CRITICAL"
    | .weak => "WEAK"
    | .moderate => "MODERATE"
    | .strong => "STRONG"

instance : LawfulChoice Strength where
  mem_choices a := by cases a <;> decide
  label_injective {a b} := by cases a <;> cases b <;> decide

/-- The tier of a name. An unknown name is quoted in the message. -/
def Strength.ofName (name : Text) : Except Text Strength :=
  match (Choice.choices (α := Strength)).find? (Choice.label · = name) with
  | some s => .ok s
  | none => .error (Text.quoted name ++ " is not a valid PasswordStrength")

def ofChoice [Choice α] (a : α) : Json := .str (Choice.label a)

namespace Line

def toJson (l : Line) : Json := .obj [("number", .int l.number), ("text", .str l.text)]

def ofJson : Decoder Line :=
  record "ConfigLine" fun m =>
    Line.mk <$> required "number" integer m <*> required "text" str m

end Line

namespace Interface

def toJson (i : Interface) : Json :=
  .obj [("name", .str i.name), ("ipAddress", .optionalText i.ipAddress),
    ("status", ofChoice i.status), ("acl", .optionalText i.acl),
    ("lineNumber", .int i.lineNumber)]

def ofJson : Decoder Interface :=
  record "Interface" fun m =>
    Interface.mk <$> required "name" str m
      <*> optional .ipAddress none (nullable str) m
      <*> optional "status" .unknown choice m
      <*> optional "acl" none (nullable str) m
      <*> required .lineNumber integer m

end Interface

namespace VtyLine

def toJson (v : VtyLine) : Json :=
  .obj [("range", .str v.range), ("password", .optionalText v.password),
    ("transport", .texts v.transport), ("accessClass", .optionalText v.accessClass),
    ("lineNumber", .int v.lineNumber)]

def ofJson : Decoder VtyLine :=
  record "VTYLine" fun m =>
    VtyLine.mk <$> required "range" str m
      <*> optional "password" none (nullable str) m
      <*> optional "transport" [] (list str) m
      <*> optional .accessClass none (nullable str) m
      <*> required .lineNumber integer m

end VtyLine

namespace InventorySummary

def toJson (s : InventorySummary) : Json :=
  .obj [("totalInterfaces", .int s.totalInterfaces), ("totalVTYLines", .int s.totalVtyLines),
    ("totalACLs", .int s.totalAcls)]

def ofJson : Decoder InventorySummary :=
  record "ConfigSummary" fun m =>
    InventorySummary.mk <$> optional .totalInterfaces 0 integer m
      <*> optional .totalVtyLines 0 integer m
      <*> optional .totalAcls 0 integer m

end InventorySummary

namespace Inventory

def toJson (i : Inventory) : Json :=
  .obj [("interfaces", .ofList Interface.toJson i.interfaces),
    ("vtyLines", .ofList VtyLine.toJson i.vtyLines), ("acls", .texts i.acls)]

def ofJson : Decoder Inventory :=
  record "ParsedConfig" fun m =>
    Inventory.mk <$> optional "interfaces" [] (list Interface.ofJson) m
      <*> optional .vtyLines [] (list VtyLine.ofJson) m
      <*> optional "acls" [] (list str) m

end Inventory

namespace Issue

def toJson (i : Issue) : Json :=
  .obj [("severity", ofChoice i.severity), ("category", .str i.category), ("title", .str i.title),
    ("description", .str i.description), ("location", .str i.location),
    ("recommendation", .str i.recommendation), ("cve", .str i.reference)]

def ofJson : Decoder Issue :=
  record "Issue" fun m =>
    Issue.mk <$> required "severity" choice m
      <*> required "category" str m
      <*> required "title" str m
      <*> required "description" str m
      <*> required "location" str m
      <*> required "recommendation" str m
      <*> optional .reference "N/A" str m

end Issue

namespace PasswordAnalysis

def toJson (a : PasswordAnalysis) : Json :=
  .obj [("strength", ofChoice a.strength), ("score", .int a.score),
    ("issues", .ofList Issue.toJson a.issues)]

def ofJson : Decoder PasswordAnalysis :=
  record "PasswordAnalysis" fun m =>
    PasswordAnalysis.mk <$> required "strength" choice m
      <*> required "score" Decoder.score m
      <*> optional "issues" [] (list Issue.ofJson) m

end PasswordAnalysis

namespace SeverityCounts

def toJson (c : SeverityCounts) : Json :=
  .obj [("critical", .int c.critical), ("high", .int c.high), ("medium", .int c.medium),
    ("low", .int c.low)]

def ofJson : Decoder SeverityCounts :=
  record "SeverityCounts" fun m =>
    SeverityCounts.mk <$> optional "critical" 0 integer m
      <*> optional "high" 0 integer m
      <*> optional "medium" 0 integer m
      <*> optional "low" 0 integer m

end SeverityCounts

namespace AuditResult

def toJson (r : AuditResult) : Json :=
  .obj [("totalIssues", .int r.totalIssues), ("critical", .int r.critical), ("high", .int r.high),
    ("medium", .int r.medium), ("low", .int r.low), ("securityScore", .int r.securityScore),
    ("issues", .ofList Issue.toJson r.issues), ("recommendations", .texts r.recommendations),
    ("passwordAnalysis", .ofOption PasswordAnalysis.toJson r.passwordAnalysis),
    ("configSummary", r.configSummary.toJson)]

def ofJson : Decoder AuditResult :=
  record "AnalysisResult" fun m =>
    AuditResult.mk <$> required .totalIssues integer m
      <*> required "critical" integer m
      <*> required "high" integer m
      <*> required "medium" integer m
      <*> required "low" integer m
      <*> required .securityScore Decoder.score m
      <*> required "issues" (list Issue.ofJson) m
      <*> required "recommendations" (list str) m
      <*> optional .passwordAnalysis none (nullable PasswordAnalysis.ofJson) m
      <*> required .configSummary InventorySummary.ofJson m

end AuditResult

namespace PenaltyWeights

def toJson (w : PenaltyWeights) : Json :=
  .obj [("base", .int w.base), ("critical", .int w.critical), ("high", .int w.high),
    ("medium", .int w.medium), ("low", .int w.low)]

def ofJson : Decoder PenaltyWeights :=
  record "PenaltyWeights" fun m =>
    PenaltyWeights.mk <$> required "base" integer m
      <*> required "critical" integer m
      <*> required "high" integer m
      <*> required "medium" integer m
      <*> required "low" integer m

end PenaltyWeights

namespace StrengthWeights

def toJson (w : StrengthWeights) : Json :=
  .obj ((Choice.choices (α := Strength)).filterMap fun s =>
    (w.get? s).map fun p => (Choice.label s, p.toJson))

/-- One entry of the table. A fault of the tier stands before one of its weights. -/
def entry (member : Text × Json) : Decoded (StrengthWeights → StrengthWeights) :=
  ((fun s p (w : StrengthWeights) => w.set s p) <$>
      ((choice (.str member.1)).within (.key "[key]")) <*> PenaltyWeights.ofJson member.2).within
    (.key member.1)

def ofJson : Decoder StrengthWeights
  | .obj members =>
    (fun updates => updates.foldl (fun w update => update w) {}) <$> .all (members.map entry)
  | _ => .fault .notMap

end StrengthWeights

namespace Policy

def toJson (p : Policy) : Json :=
  .obj [("weak_passwords", .texts p.weakPasswords), ("common_words", .texts p.commonWords),
    ("min_password_length", .int p.minPasswordLength),
    ("recommended_password_length", .int p.recommendedPasswordLength),
    ("weak_password_case_sensitive", .bool p.weakPasswordCaseSensitive),
    ("extended_best_practices", .bool p.extendedBestPractices),
    ("keyword_credentials", .bool p.keywordCredentials),
    ("skip_comment_lines", .bool p.skipCommentLines),
    ("default_weights", p.defaultWeights.toJson),
    ("strength_weights", p.strengthWeights.toJson)]

def ofJson : Decoder Policy :=
  record "AnalyzerConfig" fun m =>
    Policy.mk <$> optional "weak_passwords" standardWeakPasswords (tuple str) m
      <*> optional "common_words" standardCommonWords (tuple str) m
      <*> optional "min_password_length" 8 integer m
      <*> optional "recommended_password_length" 12 integer m
      <*> optional "weak_password_case_sensitive" false boolean m
      <*> optional "extended_best_practices" true boolean m
      <*> optional "keyword_credentials" false boolean m
      <*> optional "skip_comment_lines" false boolean m
      <*> optional "default_weights" .standard PenaltyWeights.ofJson m
      <*> optional "strength_weights" .standard StrengthWeights.ofJson m

end Policy

namespace ContentValidation

def toJson (v : ContentValidation) : Json :=
  .obj [("valid", .bool v.valid), ("errors", .texts v.errors)]

def ofJson : Decoder ContentValidation :=
  record "ContentValidation" fun m =>
    ContentValidation.mk <$> optional "valid" true boolean m <*> optional "errors" [] (list str) m

end ContentValidation

/-- A configuration sent for analysis. -/
structure TextRequest where
  configText : Text
  password : Option Text := none
  deriving DecidableEq, Inhabited

namespace TextRequest

def toJson (r : TextRequest) : Json :=
  .obj [("configText", .str r.configText), ("password", .optionalText r.password)]

def fields (m : List (Text × Json)) : Decoded TextRequest :=
  TextRequest.mk <$> required .configText str m
    <*> optional "password" none (nullable str) m

def ofJson : Decoder TextRequest := record "AnalyzeTextRequest" fields

end TextRequest

/-- A password sent for rating. -/
structure PasswordRequest where
  password : Option Text := none
  deriving DecidableEq, Inhabited

namespace PasswordRequest

def toJson (r : PasswordRequest) : Json := .obj [("password", .optionalText r.password)]

def fields (m : List (Text × Json)) : Decoded PasswordRequest :=
  PasswordRequest.mk <$> optional "password" none (nullable str) m

def ofJson : Decoder PasswordRequest := record "PasswordRequest" fields

end PasswordRequest
end ConfigAudit
