import ConfigAudit.Proofs.Audit.Coherence
import ConfigAudit.Proofs.Json.Names
import ConfigAudit.Proofs.Json.RoundTrip

/-! Every record is read back from its JSON form, and it does not matter which of its names a field
is given. -/
namespace ConfigAudit

open Decoder (Anything)
open Json (Members)

section accepted

/-! What is accepted is in range. -/

variable {d : Decoder α} {name : FieldName} {m : List (Text × Json)} {a default : α}

theorem Decoder.score_bounds {j : Json} {n : Int} (h : score j = .ok n) : 0 ≤ n ∧ n ≤ 100 := by
  simp only [score, Checked.check] at h
  cases hn : integer j with
  | faulty e =>
    rw [hn] at h
    cases h
  | ok k =>
    simp only [hn] at h
    split_ifs at h with habove hbelow
    · cases h
    · cases h
    · cases h
      omega

theorem Decoder.exists_of_record_eq_ok {label : Text} {f : List (Text × Json) → Decoded α}
    {j : Json} (h : record label f j = .ok a) : ∃ m, f m = .ok a := by
  cases j with
  | obj m => exact ⟨m, h⟩
  | _ => cases h

theorem Decoder.exists_of_nullable_eq_ok {x : Option α} {j : Json} (h : nullable d j = .ok x) :
    ∀ a ∈ x, ∃ j, d j = .ok a := by
  intro a ha
  have hsome : (some <$> d j : Decoded (Option α)) = .ok x := by
    cases j with
    | null =>
      cases h
      cases ha
    | _ => exact h
  obtain ⟨b, hb, rfl⟩ := Checked.map_eq_ok_iff.mp hsome
  cases ha
  exact ⟨j, hb⟩

theorem FieldName.exists_of_required_eq_ok (h : name.required d m = .ok a) : ∃ j, d j = .ok a := by
  rw [required_eq] at h
  cases hx : name.find? m with
  | none => rw [hx] at h; cases h
  | some x => 
    rw [hx] at h
    exact ⟨x.2, Checked.mapFaults_eq_ok_iff.mp h⟩

theorem FieldName.exists_of_optional_eq_ok (h : name.optional default d m = .ok a) :
    a = default ∨ ∃ j, d j = .ok a := by
  rw [optional_eq] at h
  cases hx : name.find? m with
  | none =>
    rw [hx] at h
    cases h
    exact .inl rfl
  | some x =>
    rw [hx] at h
    exact .inr ⟨x.2, Checked.mapFaults_eq_ok_iff.mp h⟩

end accepted

open Checked (map_eq_ok_iff seq_eq_ok_iff)
open FieldName (exists_of_required_eq_ok exists_of_optional_eq_ok)

theorem PasswordAnalysis.valid_of_ofJson {j : Json} {a : PasswordAnalysis} (h : ofJson j = .ok a) :
    a.Valid := by
  obtain ⟨m, hm⟩ := Decoder.exists_of_record_eq_ok h
  obtain ⟨_, issues, hrest, _, rfl⟩ := seq_eq_ok_iff.mp hm
  obtain ⟨_, score, hstrength, hscore, rfl⟩ := seq_eq_ok_iff.mp hrest
  obtain ⟨strength, _, rfl⟩ := map_eq_ok_iff.mp hstrength
  obtain ⟨k, hk⟩ := exists_of_required_eq_ok hscore
  exact Decoder.score_bounds hk

theorem AuditResult.valid_of_ofJson {j : Json} {r : AuditResult} (h : ofJson j = .ok r) :
    r.Valid := by
  obtain ⟨m, hm⟩ := Decoder.exists_of_record_eq_ok h
  obtain ⟨_, summary, h₉, _, rfl⟩ := seq_eq_ok_iff.mp hm
  obtain ⟨_, analysis, h₈, hanalysis, rfl⟩ := seq_eq_ok_iff.mp h₉
  obtain ⟨_, recommendations, h₇, _, rfl⟩ := seq_eq_ok_iff.mp h₈
  obtain ⟨_, issues, h₆, _, rfl⟩ := seq_eq_ok_iff.mp h₇
  obtain ⟨_, score, h₅, hscore, rfl⟩ := seq_eq_ok_iff.mp h₆
  obtain ⟨_, low, h₄, _, rfl⟩ := seq_eq_ok_iff.mp h₅
  obtain ⟨_, medium, h₃, _, rfl⟩ := seq_eq_ok_iff.mp h₄
  obtain ⟨_, high, h₂, _, rfl⟩ := seq_eq_ok_iff.mp h₃
  obtain ⟨_, critical, h₁, _, rfl⟩ := seq_eq_ok_iff.mp h₂
  obtain ⟨total, _, rfl⟩ := map_eq_ok_iff.mp h₁
  obtain ⟨k, hk⟩ := exists_of_required_eq_ok hscore
  refine ⟨Decoder.score_bounds hk, fun a ha => ?_⟩
  obtain rfl | ⟨k, hk⟩ := exists_of_optional_eq_ok hanalysis
  · cases ha
  · obtain ⟨k, hk⟩ := Decoder.exists_of_nullable_eq_ok hk a ha
    exact PasswordAnalysis.valid_of_ofJson hk

/-- A decoder and an encoder agree: a valid value is read back from what it is written as, only
valid values are read, and what is read stays the same when fields are renamed, in what is written
and in everything else in which no field has two names. -/
structure Decoder.Faithful (d : Decoder α) (encode : α → Json) (valid : α → Prop)
    (unambiguous : Json → Prop) : Prop where
  reads : ∀ a, valid a → d (encode a) = .ok a
  valid_of_ok : ∀ j a, d j = .ok a → valid a
  unambiguous_encode : ∀ a, unambiguous (encode a)
  renamed : ∀ j j' a, unambiguous j → Json.Renamed j j' → d j = .ok a → d j' = .ok a

/-- What holds of the JSON form of every record, and of the records that an audit and the reading of
a configuration give. -/
structure RecordsFaithful : Prop where
  line : Line.ofJson.Faithful Line.toJson (fun _ => True) Anything
  interface : Interface.ofJson.Faithful Interface.toJson (fun _ => True)
    (Members Interface.Unambiguous)
  vtyLine : VtyLine.ofJson.Faithful VtyLine.toJson (fun _ => True) (Members VtyLine.Unambiguous)
  summary : InventorySummary.ofJson.Faithful InventorySummary.toJson (fun _ => True)
    (Members InventorySummary.Unambiguous)
  inventory : Inventory.ofJson.Faithful Inventory.toJson (fun _ => True)
    (Members Inventory.Unambiguous)
  issue : Issue.ofJson.Faithful Issue.toJson (fun _ => True) (Members Issue.Unambiguous)
  passwordAnalysis : PasswordAnalysis.ofJson.Faithful PasswordAnalysis.toJson
    PasswordAnalysis.Valid (Members PasswordAnalysis.Unambiguous)
  severityCounts : SeverityCounts.ofJson.Faithful SeverityCounts.toJson (fun _ => True) Anything
  auditResult : AuditResult.ofJson.Faithful AuditResult.toJson AuditResult.Valid
    (Members AuditResult.Unambiguous)
  penaltyWeights : PenaltyWeights.ofJson.Faithful PenaltyWeights.toJson (fun _ => True) Anything
  policy : Policy.ofJson.Faithful Policy.toJson (fun _ => True) Anything
  contentValidation : ContentValidation.ofJson.Faithful ContentValidation.toJson (fun _ => True)
    Anything
  textRequest : TextRequest.ofJson.Faithful TextRequest.toJson (fun _ => True)
    (Members TextRequest.Unambiguous)
  passwordRequest : PasswordRequest.ofJson.Faithful PasswordRequest.toJson (fun _ => True) Anything
  audited : ∀ (a : Auditor) (config password : Option Text),
    AuditResult.ofJson (a.analyze config password).toJson = .ok (a.analyze config password)
  parsed : ∀ config : Text,
    Inventory.ofJson (Inventory.ofText config).toJson = .ok (Inventory.ofText config)

theorem Decoder.faithful_of_reads {d : Decoder α} {encode : α → Json} {p : Json → Prop}
    (hreads : ∀ a, d.Reads encode a) (hwritten : ∀ a, p (encode a)) (hnames : d.IgnoresNames p) :
    d.Faithful encode (fun _ => True) p where
  reads a _ := hreads a
  valid_of_ok _ _ _ := trivial
  unambiguous_encode := hwritten
  renamed j j' a hj h ha := hnames j j' hj h a ha

open Decoder (faithful_of_reads)

/-- Every record is read back from its JSON form, and no name of a field matters. -/
theorem recordsFaithful : RecordsFaithful where
  line := faithful_of_reads Line.reads (fun _ => trivial) Line.ignoresNames
  interface := faithful_of_reads Interface.reads Interface.unambiguous_toJson Interface.ignoresNames
  vtyLine := faithful_of_reads VtyLine.reads VtyLine.unambiguous_toJson VtyLine.ignoresNames
  summary :=
    faithful_of_reads InventorySummary.reads InventorySummary.unambiguous_toJson
      InventorySummary.ignoresNames
  inventory := faithful_of_reads Inventory.reads Inventory.unambiguous_toJson Inventory.ignoresNames
  issue := faithful_of_reads Issue.reads Issue.unambiguous_toJson Issue.ignoresNames
  passwordAnalysis :=
    { reads := fun _ ha => PasswordAnalysis.reads ha
      valid_of_ok := fun _ _ h => PasswordAnalysis.valid_of_ofJson h
      unambiguous_encode := PasswordAnalysis.unambiguous_toJson
      renamed := fun j j' a hj h ha => PasswordAnalysis.ignoresNames j j' hj h a ha }
  severityCounts :=
    faithful_of_reads SeverityCounts.reads (fun _ => trivial) SeverityCounts.ignoresNames
  auditResult :=
    { reads := fun _ hr => AuditResult.reads hr
      valid_of_ok := fun _ _ h => AuditResult.valid_of_ofJson h
      unambiguous_encode := AuditResult.unambiguous_toJson
      renamed := fun j j' r hj h hr => AuditResult.ignoresNames j j' hj h r hr }
  penaltyWeights :=
    faithful_of_reads PenaltyWeights.reads (fun _ => trivial) PenaltyWeights.ignoresNames
  policy := faithful_of_reads Policy.reads (fun _ => trivial) Policy.ignoresNames
  contentValidation :=
    faithful_of_reads ContentValidation.reads (fun _ => trivial) ContentValidation.ignoresNames
  textRequest :=
    faithful_of_reads TextRequest.reads TextRequest.unambiguous_toJson TextRequest.ignoresNames
  passwordRequest :=
    faithful_of_reads PasswordRequest.reads (fun _ => trivial) PasswordRequest.ignoresNames
  audited a config password := AuditResult.reads (a.analyze_valid config password)
  parsed config := (Inventory.ofText config).reads

example : Interface.ofJson (.obj [("line_number", .int 3), ("name", .str "Gi0/1")]) =
    .ok { name := "Gi0/1", lineNumber := 3 } := by rfl

end ConfigAudit
