import ConfigAudit.Proofs.Json.Renaming
import Mathlib.Data.List.Nodup

/-! For each record, it does not matter which of its names a field is given, as long as it is not
given both. A record is written with one of them. -/
namespace ConfigAudit

open Checked.Refines (map seq)
open Decoder (choice list nullable str tuple)
open Decoder (Anything IgnoresNames str_ignoresNames integer_ignoresNames boolean_ignoresNames
  score_ignoresNames choice_ignoresNames nullable_ignoresNames list_ignoresNames
  tuple_ignoresNames record_ignoresNames record_ignoresNames_plain)
open FieldName (Holds twofold twofoldKeys required_refines optional_refines apart_of_mem_twofold
  apart_of_notMem)
open Json (Each Members RenamedMember)

/-! Which objects bear one name only for each field of a record. Fields with one name are left out,
unless there are records in their values. -/

structure Interface.Unambiguous (m : List (Text × Json)) : Prop where
  ipAddress : FieldName.ipAddress.Single m
  lineNumber : FieldName.lineNumber.Single m

structure VtyLine.Unambiguous (m : List (Text × Json)) : Prop where
  accessClass : FieldName.accessClass.Single m
  lineNumber : FieldName.lineNumber.Single m

structure InventorySummary.Unambiguous (m : List (Text × Json)) : Prop where
  totalInterfaces : FieldName.totalInterfaces.Single m
  totalVtyLines : FieldName.totalVtyLines.Single m
  totalAcls : FieldName.totalAcls.Single m

structure Inventory.Unambiguous (m : List (Text × Json)) : Prop where
  eachInterface : Holds "interfaces" (Each (Members Interface.Unambiguous)) m
  vtyLines : FieldName.vtyLines.Single m
  eachVtyLine : FieldName.vtyLines.Holds (Each (Members VtyLine.Unambiguous)) m

structure Issue.Unambiguous (m : List (Text × Json)) : Prop where
  reference : FieldName.reference.Single m

structure PasswordAnalysis.Unambiguous (m : List (Text × Json)) : Prop where
  eachIssue : Holds "issues" (Each (Members Issue.Unambiguous)) m

structure AuditResult.Unambiguous (m : List (Text × Json)) : Prop where
  totalIssues : FieldName.totalIssues.Single m
  securityScore : FieldName.securityScore.Single m
  eachIssue : Holds "issues" (Each (Members Issue.Unambiguous)) m
  passwordAnalysis : FieldName.passwordAnalysis.Single m
  analysis : FieldName.passwordAnalysis.Holds (Members PasswordAnalysis.Unambiguous) m
  configSummary : FieldName.configSummary.Single m
  summary : FieldName.configSummary.Holds (Members InventorySummary.Unambiguous) m

structure TextRequest.Unambiguous (m : List (Text × Json)) : Prop where
  configText : FieldName.configText.Single m

/-! A record is written with the written name of each field, and without the other one. -/

/-- An object with those keys, none of which is the other name of the field. -/
theorem FieldName.single_of_keys {written other : String} {m : List (Text × Json)}
    (keys : List String) (hkeys : m.map Prod.fst = keys.map String.toList) (hnodup : keys.Nodup)
    (hother : other ∉ keys) : Single ⟨written, other⟩ m := by
  constructor
  · rw [hkeys]
    exact List.Nodup.map (fun _ _ h => String.toList_injective h) hnodup
  · rintro ⟨-, hmem⟩
    rw [hkeys] at hmem
    obtain ⟨key, hkey, hsame⟩ := List.mem_map.mp hmem
    exact hother (String.toList_injective hsame ▸ hkey)

theorem FieldName.holds_of_lookup {name : FieldName} {p : Json → Prop} {m : List (Text × Json)}
    {j : Json} (hlookup : Json.lookup name.written m = some j) (hj : p j) : name.Holds p m := by
  intro x hx
  rw [find?, hlookup] at hx
  cases hx
  exact hj

theorem Json.each_ofList {encode : α → Json} {p : Json → Prop} (h : ∀ a, p (encode a))
    (l : List α) : Each p (.ofList encode l) := by
  intro j hj
  obtain ⟨a, -, rfl⟩ := List.mem_map.mp hj
  exact h a

open FieldName (single_of_keys holds_of_lookup)
open Json (each_ofList)

theorem Interface.unambiguous_toJson (i : Interface) :
    Members Interface.Unambiguous i.toJson := by
  let keys := ["name", "ipAddress", "status", "acl", "lineNumber"]
  have hnodup : keys.Nodup := by simp [keys]
  constructor
  case ipAddress => exact single_of_keys keys rfl hnodup (by simp [keys])
  case lineNumber => exact single_of_keys keys rfl hnodup (by simp [keys])

theorem VtyLine.unambiguous_toJson (v : VtyLine) : Members VtyLine.Unambiguous v.toJson := by
  let keys := ["range", "password", "transport", "accessClass", "lineNumber"]
  have hnodup : keys.Nodup := by simp [keys]
  constructor
  case accessClass => exact single_of_keys keys rfl hnodup (by simp [keys])
  case lineNumber => exact single_of_keys keys rfl hnodup (by simp [keys])

theorem InventorySummary.unambiguous_toJson (s : InventorySummary) :
    Members InventorySummary.Unambiguous s.toJson := by
  let keys := ["totalInterfaces", "totalVTYLines", "totalACLs"]
  have hnodup : keys.Nodup := by simp [keys]
  constructor
  case totalInterfaces => exact single_of_keys keys rfl hnodup (by simp [keys])
  case totalVtyLines => exact single_of_keys keys rfl hnodup (by simp [keys])
  case totalAcls => exact single_of_keys keys rfl hnodup (by simp [keys])

theorem Inventory.unambiguous_toJson (i : Inventory) :
    Members Inventory.Unambiguous i.toJson := by
  let keys := ["interfaces", "vtyLines", "acls"]
  have hnodup : keys.Nodup := by simp [keys]
  constructor
  case eachInterface =>
    exact holds_of_lookup rfl (each_ofList Interface.unambiguous_toJson i.interfaces)
  case vtyLines => exact single_of_keys keys rfl hnodup (by simp [keys])
  case eachVtyLine =>
    exact holds_of_lookup rfl (each_ofList VtyLine.unambiguous_toJson i.vtyLines)

theorem Issue.unambiguous_toJson (i : Issue) : Members Issue.Unambiguous i.toJson := by
  let keys := ["severity", "category", "title", "description", "location", "recommendation", "cve"]
  have hnodup : keys.Nodup := by simp [keys]
  exact ⟨single_of_keys keys rfl hnodup (by simp [keys])⟩

theorem PasswordAnalysis.unambiguous_toJson (a : PasswordAnalysis) :
    Members PasswordAnalysis.Unambiguous a.toJson :=
  ⟨holds_of_lookup rfl (each_ofList Issue.unambiguous_toJson a.issues)⟩

theorem AuditResult.unambiguous_toJson (r : AuditResult) :
    Members AuditResult.Unambiguous r.toJson := by
  let keys := ["totalIssues", "critical", "high", "medium", "low", "securityScore", "issues",
    "recommendations", "passwordAnalysis", "configSummary"]
  have hnodup : keys.Nodup := by simp [keys]
  constructor
  case eachIssue => exact holds_of_lookup rfl (each_ofList Issue.unambiguous_toJson r.issues)
  case analysis =>
    refine holds_of_lookup rfl ?_
    cases r.passwordAnalysis with
    | none => trivial
    | some a => exact a.unambiguous_toJson
  case summary => exact holds_of_lookup rfl r.configSummary.unambiguous_toJson
  all_goals exact single_of_keys keys rfl hnodup (by simp [keys])

theorem TextRequest.unambiguous_toJson (t : TextRequest) :
    Members TextRequest.Unambiguous t.toJson := by
  let keys := ["configText", "password"]
  have hnodup : keys.Nodup := by simp [keys]
  exact ⟨single_of_keys keys rfl hnodup (by simp [keys])⟩

section names

variable {d : Decoder α} {m m' : List (Text × Json)} {default : α}

/-- A field with one name, in whose value no names count. -/
theorem FieldName.required_refines_plain {s : String} (hs : s ∉ twofoldKeys)
    (hd : d.IgnoresNames Anything) (h : List.Forall₂ RenamedMember m m') :
    Checked.Refines (required s d m) (required s d m') :=
  required_refines (apart_of_notMem hs) (.inl rfl) hd (fun _ _ => trivial) h

theorem FieldName.optional_refines_plain {s : String} (hs : s ∉ twofoldKeys)
    (hd : d.IgnoresNames Anything) (h : List.Forall₂ RenamedMember m m') :
    Checked.Refines (optional s default d m) (optional s default d m') :=
  optional_refines default (apart_of_notMem hs) (.inl rfl) hd (fun _ _ => trivial) h

/-- A field with two names, in whose value no names count. -/
theorem FieldName.required_refines_twofold (name : FieldName) (hname : name ∈ twofold)
    (hsingle : name.Single m) (hd : d.IgnoresNames Anything) (h : List.Forall₂ RenamedMember m m') :
    Checked.Refines (name.required d m) (name.required d m') :=
  required_refines (apart_of_mem_twofold name hname) (.inr hsingle) hd (fun _ _ => trivial) h

theorem FieldName.optional_refines_twofold (name : FieldName) (hname : name ∈ twofold)
    (hsingle : name.Single m) (hd : d.IgnoresNames Anything) (h : List.Forall₂ RenamedMember m m') :
    Checked.Refines (name.optional default d m) (name.optional default d m') :=
  optional_refines default (apart_of_mem_twofold name hname) (.inr hsingle) hd
    (fun _ _ => trivial) h

end names

open FieldName (required_refines_plain optional_refines_plain required_refines_twofold
  optional_refines_twofold)

theorem Decoder.optionalText_ignoresNames : IgnoresNames Anything (nullable str) :=
  nullable_ignoresNames str_ignoresNames

theorem each_anything (j : Json) : Each Anything j := by cases j <;> simp [Each]

theorem Decoder.texts_ignoresNames : IgnoresNames Anything (list str) :=
  fun j j' _ h => list_ignoresNames str_ignoresNames j j' (each_anything j) h

theorem Decoder.textTuple_ignoresNames : IgnoresNames Anything (tuple str) :=
  fun j j' _ h => tuple_ignoresNames str_ignoresNames j j' (each_anything j) h

open Decoder (optionalText_ignoresNames texts_ignoresNames textTuple_ignoresNames)

theorem Line.ignoresNames : Line.ofJson.IgnoresNames Anything := by
  refine record_ignoresNames_plain fun m m' h => seq (map _ ?number) ?text
  case number => exact required_refines_plain (by simp [twofoldKeys]) integer_ignoresNames h
  case text => exact required_refines_plain (by simp [twofoldKeys]) str_ignoresNames h

theorem Interface.ignoresNames :
    Interface.ofJson.IgnoresNames (Members Interface.Unambiguous) := by
  refine record_ignoresNames fun m m' hm h =>
    seq (seq (seq (seq (map _ ?name) ?ipAddress) ?status) ?acl) ?lineNumber
  case name => exact required_refines_plain (by simp [twofoldKeys]) str_ignoresNames h
  case ipAddress =>
    exact optional_refines_twofold .ipAddress (by simp [twofold]) hm.ipAddress
      optionalText_ignoresNames h
  case status => exact optional_refines_plain (by simp [twofoldKeys]) choice_ignoresNames h
  case acl => exact optional_refines_plain (by simp [twofoldKeys]) optionalText_ignoresNames h
  case lineNumber =>
    exact required_refines_twofold .lineNumber (by simp [twofold]) hm.lineNumber
      integer_ignoresNames h

theorem VtyLine.ignoresNames : VtyLine.ofJson.IgnoresNames (Members VtyLine.Unambiguous) := by
  refine record_ignoresNames fun m m' hm h =>
    seq (seq (seq (seq (map _ ?range) ?password) ?transport) ?accessClass) ?lineNumber
  case range => exact required_refines_plain (by simp [twofoldKeys]) str_ignoresNames h
  case password =>
    exact optional_refines_plain (by simp [twofoldKeys]) optionalText_ignoresNames h
  case transport => exact optional_refines_plain (by simp [twofoldKeys]) texts_ignoresNames h
  case accessClass =>
    exact optional_refines_twofold .accessClass (by simp [twofold]) hm.accessClass
      optionalText_ignoresNames h
  case lineNumber =>
    exact required_refines_twofold .lineNumber (by simp [twofold]) hm.lineNumber
      integer_ignoresNames h

theorem InventorySummary.ignoresNames :
    InventorySummary.ofJson.IgnoresNames (Members InventorySummary.Unambiguous) := by
  refine record_ignoresNames fun m m' hm h =>
    seq (seq (map _ ?totalInterfaces) ?totalVtyLines) ?totalAcls
  case totalInterfaces =>
    exact optional_refines_twofold .totalInterfaces (by simp [twofold]) hm.totalInterfaces
      integer_ignoresNames h
  case totalVtyLines =>
    exact optional_refines_twofold .totalVtyLines (by simp [twofold]) hm.totalVtyLines
      integer_ignoresNames h
  case totalAcls =>
    exact optional_refines_twofold .totalAcls (by simp [twofold]) hm.totalAcls
      integer_ignoresNames h

theorem Inventory.ignoresNames :
    Inventory.ofJson.IgnoresNames (Members Inventory.Unambiguous) := by
  refine record_ignoresNames fun m m' hm h => seq (seq (map _ ?interfaces) ?vtyLines) ?acls
  case interfaces =>
    exact optional_refines [] (apart_of_notMem (by simp [twofoldKeys])) (.inl rfl)
      (list_ignoresNames Interface.ignoresNames) hm.eachInterface h
  case vtyLines =>
    exact optional_refines [] (apart_of_mem_twofold .vtyLines (by simp [twofold]))
      (.inr hm.vtyLines) (list_ignoresNames VtyLine.ignoresNames) hm.eachVtyLine h
  case acls => exact optional_refines_plain (by simp [twofoldKeys]) texts_ignoresNames h

theorem Issue.ignoresNames : Issue.ofJson.IgnoresNames (Members Issue.Unambiguous) := by
  refine record_ignoresNames fun m m' hm h =>
    seq (seq (seq (seq (seq (seq (map _ ?severity) ?category) ?title) ?description) ?location)
      ?recommendation) ?reference
  case severity => exact required_refines_plain (by simp [twofoldKeys]) choice_ignoresNames h
  case reference =>
    exact optional_refines_twofold .reference (by simp [twofold]) hm.reference str_ignoresNames h
  all_goals exact required_refines_plain (by simp [twofoldKeys]) str_ignoresNames h

theorem PasswordAnalysis.ignoresNames :
    PasswordAnalysis.ofJson.IgnoresNames (Members PasswordAnalysis.Unambiguous) := by
  refine record_ignoresNames fun m m' hm h => seq (seq (map _ ?strength) ?score) ?issues
  case strength => exact required_refines_plain (by simp [twofoldKeys]) choice_ignoresNames h
  case score => exact required_refines_plain (by simp [twofoldKeys]) score_ignoresNames h
  case issues =>
    exact optional_refines [] (apart_of_notMem (by simp [twofoldKeys])) (.inl rfl)
      (list_ignoresNames Issue.ignoresNames) hm.eachIssue h

theorem SeverityCounts.ignoresNames : SeverityCounts.ofJson.IgnoresNames Anything := by
  refine record_ignoresNames_plain fun m m' h =>
    seq (seq (seq (map _ ?critical) ?high) ?medium) ?low
  all_goals exact optional_refines_plain (by simp [twofoldKeys]) integer_ignoresNames h

theorem AuditResult.ignoresNames :
    AuditResult.ofJson.IgnoresNames (Members AuditResult.Unambiguous) := by
  refine record_ignoresNames fun m m' hm h =>
    seq (seq (seq (seq (seq (seq (seq (seq (seq (map _ ?totalIssues) ?critical) ?high) ?medium)
      ?low) ?securityScore) ?issues) ?recommendations) ?passwordAnalysis) ?configSummary
  case totalIssues =>
    exact required_refines_twofold .totalIssues (by simp [twofold]) hm.totalIssues
      integer_ignoresNames h
  case securityScore =>
    exact required_refines_twofold .securityScore (by simp [twofold]) hm.securityScore
      score_ignoresNames h
  case issues =>
    exact required_refines (apart_of_notMem (by simp [twofoldKeys])) (.inl rfl)
      (list_ignoresNames Issue.ignoresNames) hm.eachIssue h
  case recommendations => exact required_refines_plain (by simp [twofoldKeys]) texts_ignoresNames h
  case passwordAnalysis =>
    exact optional_refines none (apart_of_mem_twofold .passwordAnalysis (by simp [twofold]))
      (.inr hm.passwordAnalysis) (nullable_ignoresNames PasswordAnalysis.ignoresNames) hm.analysis h
  case configSummary =>
    exact required_refines (apart_of_mem_twofold .configSummary (by simp [twofold]))
      (.inr hm.configSummary) InventorySummary.ignoresNames hm.summary h
  all_goals exact required_refines_plain (by simp [twofoldKeys]) integer_ignoresNames h

theorem PenaltyWeights.ignoresNames : PenaltyWeights.ofJson.IgnoresNames Anything := by
  refine record_ignoresNames_plain fun m m' h =>
    seq (seq (seq (seq (map _ ?base) ?critical) ?high) ?medium) ?low
  all_goals exact required_refines_plain (by simp [twofoldKeys]) integer_ignoresNames h

/-- The name of a tier is not one of two names of a field. -/
theorem Strength.label_apart : ∀ s : Strength, ∀ f ∈ FieldName.twofold,
    ¬f.Answers (Choice.label s) := by
  intro s
  cases s <;> decide

theorem Decoder.eq_of_choice_eq_ok [Choice α] {j : Json} {a : α} (h : choice j = .ok a) :
    j = ofChoice a := by
  cases j with
  | str t =>
    simp only [choice] at h
    cases hfind : (Choice.choices (α := α)).find? (Choice.label · = t) with
    | none => rw [hfind] at h; cases h
    | some b =>
      have hlabel : Choice.label b = t := by simpa using List.find?_some hfind
      rw [hfind] at h
      cases h
      rw [← hlabel, ofChoice]
  | _ => cases h

/-- Only the name of a tier is accepted as a key, so an accepted entry keeps its key. -/
theorem StrengthWeights.entry_refines {x x' : Text × Json} (h : RenamedMember x x') :
    Checked.Refines (entry x) (entry x') := by
  obtain ⟨k, v⟩ := x
  obtain ⟨k', v'⟩ := x'
  obtain ⟨hkey, hvalue⟩ := h
  have hsame : ∀ s : Strength, choice (.str k) = .ok s → k' = k := by
    intro s hs
    have hlabel : k = Choice.label s := Json.str.inj (Decoder.eq_of_choice_eq_ok hs)
    obtain rfl | ⟨f, hf, hanswers, _⟩ := hkey
    · rfl
    · exact absurd (hlabel ▸ hanswers) (s.label_apart f hf)
  have htier : Checked.Refines (choice (α := Strength) (.str k)) (choice (.str k')) := by
    intro s hs
    rw [hsame s hs, hs]
  have hweights := PenaltyWeights.ignoresNames v v' trivial hvalue
  exact Decoded.within_refines _ _ (((Decoded.within_refines _ _ htier).map _).seq hweights)

theorem StrengthWeights.ignoresNames : StrengthWeights.ofJson.IgnoresNames Anything := by
  intro j j' _ h
  cases j with
  | obj m =>
    obtain ⟨m', rfl, hm⟩ := h.of_obj
    have hentries : List.Forall₂ Checked.Refines (m.map entry) (m'.map entry) := by
      rw [List.forall₂_map_left_iff, List.forall₂_map_right_iff]
      exact hm.imp fun _ _ hx => entry_refines hx
    exact (Checked.Refines.all hentries).map _
  | _ =>
    intro w hw
    simp only [ofJson, Decoded.fault] at hw
    cases hw

theorem Policy.ignoresNames : Policy.ofJson.IgnoresNames Anything := by
  refine record_ignoresNames_plain fun m m' h =>
    seq (seq (seq (seq (seq (seq (seq (seq (seq (map _ ?weakPasswords) ?commonWords)
      ?minPasswordLength) ?recommendedPasswordLength) ?weakPasswordCaseSensitive)
      ?extendedBestPractices) ?keywordCredentials) ?skipCommentLines) ?defaultWeights)
      ?strengthWeights
  case weakPasswords | commonWords =>
    exact optional_refines_plain (by simp [twofoldKeys]) textTuple_ignoresNames h
  case minPasswordLength | recommendedPasswordLength =>
    exact optional_refines_plain (by simp [twofoldKeys]) integer_ignoresNames h
  case defaultWeights =>
    exact optional_refines_plain (by simp [twofoldKeys]) PenaltyWeights.ignoresNames h
  case strengthWeights =>
    exact optional_refines_plain (by simp [twofoldKeys]) StrengthWeights.ignoresNames h
  all_goals exact optional_refines_plain (by simp [twofoldKeys]) boolean_ignoresNames h

theorem ContentValidation.ignoresNames : ContentValidation.ofJson.IgnoresNames Anything := by
  refine record_ignoresNames_plain fun m m' h => seq (map _ ?valid) ?errors
  case valid => exact optional_refines_plain (by simp [twofoldKeys]) boolean_ignoresNames h
  case errors => exact optional_refines_plain (by simp [twofoldKeys]) texts_ignoresNames h

theorem TextRequest.ignoresNames :
    TextRequest.ofJson.IgnoresNames (Members TextRequest.Unambiguous) := by
  refine record_ignoresNames fun m m' hm h => seq (map _ ?configText) ?password
  case configText =>
    exact required_refines_twofold .configText (by simp [twofold]) hm.configText str_ignoresNames h
  case password =>
    exact optional_refines_plain (by simp [twofoldKeys]) optionalText_ignoresNames h

theorem PasswordRequest.ignoresNames : PasswordRequest.ofJson.IgnoresNames Anything := by
  refine record_ignoresNames_plain fun m m' h => map _ ?password
  case password =>
    exact optional_refines_plain (by simp [twofoldKeys]) optionalText_ignoresNames h

end ConfigAudit
