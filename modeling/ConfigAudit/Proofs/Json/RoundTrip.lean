import ConfigAudit.Json.Records
import Mathlib.Tactic.Common

/-! What a record is written as is read back as that record, for each decoder and the encoder that
goes with it. -/
namespace ConfigAudit

namespace Checked

theorem map_ok {x : Checked φ α} {a : α} (g : α → β) (h : x = .ok a) : g <$> x = .ok (g a) := by
  rw [h]
  rfl

theorem seq_ok {f : Checked φ (α → β)} {x : Checked φ α} {g : α → β} {a : α} (hf : f = .ok g)
    (hx : x = .ok a) : f <*> x = .ok (g a) := by
  rw [hf, hx]
  rfl

theorem all_map_ok (l : List α) : (all (l.map .ok) : Checked φ (List α)) = .ok l := by
  induction l with
  | nil => rfl
  | cons a r ih => exact seq_ok (map_ok _ rfl) ih

end Checked

namespace Decoder

/-- A decoder reads back what an encoder writes for a value. -/
def Reads (d : Decoder α) (encode : α → Json) (a : α) : Prop := d (encode a) = .ok a

theorem reads_str (t : Text) : str.Reads .str t := rfl

theorem reads_integer (n : Int) : integer.Reads .int n := rfl

theorem reads_boolean (b : Bool) : boolean.Reads .bool b := rfl

theorem reads_score {n : Int} (h : 0 ≤ n ∧ n ≤ 100) : score.Reads .int n := by
  have habove : ¬100 < n := by omega
  have hbelow : ¬n < 0 := by omega
  simp only [Reads, score, integer, Checked.check, if_neg habove, if_neg hbelow]

/-- The label of a value is found among the choices, and no other choice bears it. -/
theorem reads_choice [Choice α] [LawfulChoice α] (a : α) : choice.Reads ofChoice a := by
  cases hfind : (Choice.choices (α := α)).find? (Choice.label · = Choice.label a) with
  | none => simpa using List.find?_eq_none.mp hfind a (LawfulChoice.mem_choices a)
  | some b =>
    have hb : b = a := LawfulChoice.label_injective (by simpa using List.find?_some hfind)
    simp only [Reads, choice, ofChoice, hfind, hb]

theorem reads_nullable {d : Decoder α} {encode : α → Json} {x : Option α}
    (h : ∀ a ∈ x, d.Reads encode a) (hnull : ∀ a, encode a ≠ .null) :
    (nullable d).Reads (.ofOption encode) x := by
  cases x with
  | none => rfl
  | some a =>
    have hmap := Checked.map_ok some (h a rfl)
    have hencode := hnull a
    simp only [Reads, Json.ofOption]
    generalize encode a = j at hmap hencode ⊢
    cases j with
    | null => exact absurd rfl hencode
    | _ => exact hmap

theorem items_map {d : Decoder α} {encode : α → Json} {l : List α}
    (h : ∀ a ∈ l, d.Reads encode a) : items d (l.map encode) = .ok l := by
  have heach : ((l.map encode).mapIdx fun i j => (d j).within (.index i)) = l.map .ok := by
    refine List.ext_getElem (by simp) fun i hi hi' => ?_
    rw [List.length_mapIdx, List.length_map] at hi
    rw [List.getElem_mapIdx, List.getElem_map, List.getElem_map, h _ (List.getElem_mem hi)]
    rfl
  rw [items, heach, Checked.all_map_ok]

theorem reads_list {d : Decoder α} {encode : α → Json} {l : List α}
    (h : ∀ a ∈ l, d.Reads encode a) : (list d).Reads (.ofList encode) l := items_map h

theorem reads_tuple {d : Decoder α} {encode : α → Json} {l : List α}
    (h : ∀ a ∈ l, d.Reads encode a) : (tuple d).Reads (.ofList encode) l := items_map h

theorem reads_optionalText (x : Option Text) : (nullable str).Reads .optionalText x :=
  reads_nullable (fun t _ => reads_str t) fun t hnull => by cases hnull

theorem reads_texts (l : List Text) : (list str).Reads .texts l :=
  reads_list fun t _ => reads_str t

end Decoder

namespace FieldName

variable {name : FieldName} {d : Decoder α} {encode : α → Json} {a default : α}
  {members : List (Text × Json)}

theorem required_ok (hfind : Json.lookup name.written members = some (encode a))
    (h : d.Reads encode a) : name.required d members = .ok a := by
  simp only [required, find?, hfind]
  rw [h]
  rfl

theorem optional_ok (hfind : Json.lookup name.written members = some (encode a))
    (h : d.Reads encode a) : name.optional default d members = .ok a := by
  simp only [optional, find?, hfind]
  rw [h]
  rfl

end FieldName

open Checked (map_ok seq_ok)
open Decoder (reads_str reads_integer reads_boolean reads_score reads_choice reads_list reads_tuple
  reads_optionalText reads_texts)
open FieldName (required_ok optional_ok)

theorem Issue.reads (i : Issue) : Issue.ofJson.Reads toJson i := by
  cases i
  refine seq_ok (seq_ok (seq_ok (seq_ok (seq_ok (seq_ok (map_ok _ ?severity) ?category) ?title)
    ?description) ?location) ?recommendation) ?reference
  case severity => exact required_ok rfl (reads_choice _)
  case reference => exact optional_ok rfl (reads_str _)
  all_goals exact required_ok rfl (reads_str _)

theorem InventorySummary.reads (s : InventorySummary) : InventorySummary.ofJson.Reads toJson s := by
  cases s
  refine seq_ok (seq_ok (map_ok _ ?totalInterfaces) ?totalVtyLines) ?totalAcls
  all_goals exact optional_ok rfl (reads_integer _)

def PasswordAnalysis.Valid (a : PasswordAnalysis) : Prop := 0 ≤ a.score ∧ a.score ≤ 100

theorem PasswordAnalysis.reads {a : PasswordAnalysis} (h : a.Valid) :
    PasswordAnalysis.ofJson.Reads toJson a := by
  cases a
  refine seq_ok (seq_ok (map_ok _ ?strength) ?score) ?issues
  case strength => exact required_ok rfl (reads_choice _)
  case score => exact required_ok rfl (reads_score h)
  case issues => exact optional_ok rfl (reads_list fun i _ => i.reads)

/-- The scores are in their range. -/
structure AuditResult.Valid (r : AuditResult) : Prop where
  securityScore : 0 ≤ r.securityScore ∧ r.securityScore ≤ 100
  passwordAnalysis : ∀ a ∈ r.passwordAnalysis, a.Valid

theorem AuditResult.reads {r : AuditResult} (h : r.Valid) :
    AuditResult.ofJson.Reads toJson r := by
  obtain ⟨hscore, hanalysis⟩ := h
  cases r
  refine seq_ok (seq_ok (seq_ok (seq_ok (seq_ok (seq_ok (seq_ok (seq_ok (seq_ok
    (map_ok _ ?totalIssues) ?critical) ?high) ?medium) ?low) ?securityScore) ?issues)
    ?recommendations) ?passwordAnalysis) ?configSummary
  case securityScore => exact required_ok rfl (reads_score hscore)
  case issues => exact required_ok rfl (reads_list fun i _ => i.reads)
  case recommendations => exact required_ok rfl (reads_texts _)
  case passwordAnalysis =>
    refine optional_ok rfl (Decoder.reads_nullable (fun a ha => PasswordAnalysis.reads (hanalysis a ha))
      ?_)
    intro a hnull
    cases hnull
  case configSummary => exact required_ok rfl (InventorySummary.reads _)
  all_goals exact required_ok rfl (reads_integer _)

theorem Line.reads (l : Line) : Line.ofJson.Reads toJson l := by
  cases l
  refine seq_ok (map_ok _ ?number) ?text
  case number => exact required_ok rfl (reads_integer _)
  case text => exact required_ok rfl (reads_str _)

theorem Interface.reads (i : Interface) : Interface.ofJson.Reads toJson i := by
  cases i
  refine seq_ok (seq_ok (seq_ok (seq_ok (map_ok _ ?name) ?ipAddress) ?status) ?acl) ?lineNumber
  case name => exact required_ok rfl (reads_str _)
  case status => exact optional_ok rfl (reads_choice _)
  case lineNumber => exact required_ok rfl (reads_integer _)
  all_goals exact optional_ok rfl (reads_optionalText _)

theorem VtyLine.reads (v : VtyLine) : VtyLine.ofJson.Reads toJson v := by
  cases v
  refine seq_ok (seq_ok (seq_ok (seq_ok (map_ok _ ?range) ?password) ?transport) ?accessClass)
    ?lineNumber
  case range => exact required_ok rfl (reads_str _)
  case transport => exact optional_ok rfl (reads_texts _)
  case lineNumber => exact required_ok rfl (reads_integer _)
  all_goals exact optional_ok rfl (reads_optionalText _)

theorem Inventory.reads (i : Inventory) : Inventory.ofJson.Reads toJson i := by
  cases i
  refine seq_ok (seq_ok (map_ok _ ?interfaces) ?vtyLines) ?acls
  case interfaces => exact optional_ok rfl (reads_list fun i _ => i.reads)
  case vtyLines => exact optional_ok rfl (reads_list fun v _ => v.reads)
  case acls => exact optional_ok rfl (reads_texts _)

theorem SeverityCounts.reads (c : SeverityCounts) : SeverityCounts.ofJson.Reads toJson c := by
  cases c
  refine seq_ok (seq_ok (seq_ok (map_ok _ ?critical) ?high) ?medium) ?low
  all_goals exact optional_ok rfl (reads_integer _)

theorem PenaltyWeights.reads (w : PenaltyWeights) : PenaltyWeights.ofJson.Reads toJson w := by
  cases w
  refine seq_ok (seq_ok (seq_ok (seq_ok (map_ok _ ?base) ?critical) ?high) ?medium) ?low
  all_goals exact required_ok rfl (reads_integer _)

theorem StrengthWeights.entry_ok (s : Strength) (p : PenaltyWeights) :
    entry (Choice.label s, p.toJson) = .ok (·.set s p) := by
  have htier : (Decoder.choice (.str (Choice.label s))).within (.key "[key]") = .ok s := by
    rw [show Decoder.choice (.str (Choice.label s)) = .ok s from reads_choice s]
    rfl
  have hboth := seq_ok (map_ok (fun s p (w : StrengthWeights) => w.set s p) htier) p.reads
  rw [entry, hboth]
  rfl

/-- Every tier that has weights gets them back, and no other tier gets any. -/
theorem StrengthWeights.reads (w : StrengthWeights) : StrengthWeights.ofJson.Reads toJson w := by
  let tiers := Choice.choices (α := Strength)
  let updates := tiers.filterMap fun s => (w.get? s).map fun p (v : StrengthWeights) => v.set s p
  have hentries : (tiers.filterMap fun s => (w.get? s).map fun p =>
      (Choice.label s, p.toJson)).map entry = updates.map .ok := by
    rw [List.map_filterMap, List.map_filterMap]
    simp only [Option.map_map, Function.comp_def, entry_ok]
  have hrestored : updates.foldl (fun v update => update v) {} = w := by
    obtain ⟨critical, weak, moderate, strong⟩ := w
    cases critical <;> cases weak <;> cases moderate <;> cases strong <;> rfl
  change (fun updates => updates.foldl (fun v update => update v) {}) <$>
    Checked.all ((tiers.filterMap _).map entry) = .ok w
  rw [hentries, map_ok _ (Checked.all_map_ok updates), hrestored]

theorem Policy.reads (p : Policy) : Policy.ofJson.Reads toJson p := by
  cases p
  refine seq_ok (seq_ok (seq_ok (seq_ok (seq_ok (seq_ok (seq_ok (seq_ok (seq_ok
    (map_ok _ ?weakPasswords) ?commonWords) ?minPasswordLength) ?recommendedPasswordLength)
    ?weakPasswordCaseSensitive) ?extendedBestPractices) ?keywordCredentials) ?skipCommentLines)
    ?defaultWeights) ?strengthWeights
  case weakPasswords | commonWords => exact optional_ok rfl (reads_tuple fun t _ => reads_str t)
  case minPasswordLength | recommendedPasswordLength => exact optional_ok rfl (reads_integer _)
  case defaultWeights => exact optional_ok rfl (PenaltyWeights.reads _)
  case strengthWeights => exact optional_ok rfl (StrengthWeights.reads _)
  all_goals exact optional_ok rfl (reads_boolean _)

theorem ContentValidation.reads (v : ContentValidation) :
    ContentValidation.ofJson.Reads toJson v := by
  cases v
  refine seq_ok (map_ok _ ?valid) ?errors
  case valid => exact optional_ok rfl (reads_boolean _)
  case errors => exact optional_ok rfl (reads_texts _)

theorem TextRequest.reads (r : TextRequest) : TextRequest.ofJson.Reads toJson r := by
  cases r
  refine seq_ok (map_ok _ ?configText) ?password
  case configText => exact required_ok rfl (reads_str _)
  case password => exact optional_ok rfl (reads_optionalText _)

theorem PasswordRequest.reads (r : PasswordRequest) : PasswordRequest.ofJson.Reads toJson r := by
  cases r
  refine map_ok _ ?password
  case password => exact optional_ok rfl (reads_optionalText _)

end ConfigAudit
