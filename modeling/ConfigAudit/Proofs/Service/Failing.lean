import ConfigAudit.Proofs.Service.Calls

/-! What becomes of a failing engine. A configuration is rejected by the first gate that it does not
pass, whatever the engine does, so a failure shows behind the last gate only. -/
namespace ConfigAudit

namespace Settings

/-- The refusals of the two gates that texts and files have in common, in their order. -/
inductive Rejects (s : Settings) (size : Nat) (config : Text) : Refusal → Prop where
  | tooLarge {limit : Limit} (hlimit : s.maxUploadSize.limit = .ok limit)
      (hsize : limit.Below size) :
    Rejects s size config (.tooLarge (s.maxUploadSize.display .int))
  | unfit {limit minLength : Limit} {isShort : Bool} (hlimit : s.maxUploadSize.limit = .ok limit)
      (hsize : ¬limit.Below size) (hlength : s.minConfigLength.limit = .ok minLength)
      (hshort : isShort = true ↔ minLength.Above config.length)
      (hproblems : Implausibility.judge config isShort ≠ []) :
    Rejects s size config (.unfit (Implausibility.judge config isShort))

/-- The gates that a text is tried by, each behind those before it. -/
inductive RejectsText (s : Settings) (config : Text) : Refusal → Prop where
  | empty (hblank : config.strip = []) : RejectsText s config .emptyText
  | measured {refusal : Refusal} (hblank : config.strip ≠ [])
      (h : s.Rejects (Utf8.encode config).length config refusal) : RejectsText s config refusal

/-- The gates that an upload is tried by, each behind those before it. -/
inductive RejectsFile (s : Settings) : Option Upload → Refusal → Prop where
  | absent : RejectsFile s none .noFile
  | unnamed {u : Upload} (hname : u.filename = none ∨ u.filename = some []) :
    RejectsFile s (some u) .noFile
  | unsupported {u : Upload} {name : Text} (hname : u.filename = some name) (hne : name ≠ [])
      (hending : (Text.lowercase name).endsWith ".txt" = false)
      (htype : u.contentType ≠ some ("text/plain" : Text)) : RejectsFile s (some u) .unsupportedFile
  | measured {u : Upload} {name : Text} {refusal : Refusal} (hname : u.filename = some name)
      (hne : name ≠ [])
      (htype : (Text.lowercase name).endsWith ".txt" = true ∨
        u.contentType = some ("text/plain" : Text))
      (h : s.Rejects u.content.length (Utf8.decodeLossy u.content) refusal) :
    RejectsFile s (some u) refusal

/-- A gate cannot be tried, since its limit is no number. -/
inductive Stalls (s : Settings) (size : Nat) : Failure → Prop where
  | size {kind : Text} (hlimit : s.maxUploadSize.limit = .error kind) :
    Stalls s size (.incomparable '>' kind)
  | length {limit : Limit} {kind : Text} (hlimit : s.maxUploadSize.limit = .ok limit)
      (hsize : ¬limit.Below size) (hlength : s.minConfigLength.limit = .error kind) :
    Stalls s size (.incomparable '<' kind)

variable {s : Settings} {size : Nat} {config : Text} {refusal : Refusal}

theorem Rejects.status (h : s.Rejects size config refusal) :
    refusal.status = 400 ∨ refusal.status = 413 := by
  cases h with
  | tooLarge => exact .inr rfl
  | unfit => exact .inl rfl

theorem RejectsText.status (h : s.RejectsText config refusal) :
    refusal.status = 400 ∨ refusal.status = 413 := by
  cases h with
  | empty => exact .inl rfl
  | measured _ h => exact h.status

theorem RejectsFile.status {upload : Option Upload} (h : s.RejectsFile upload refusal) :
    refusal.status = 400 ∨ refusal.status = 413 := by
  cases h with
  | measured _ _ _ h => exact h.status
  | _ => exact .inl rfl

section Measured

variable (subject : Subject)

theorem sizeRefusal?_of_not_below {limit : Limit} (hlimit : s.maxUploadSize.limit = .ok limit)
    (hsize : ¬limit.Below size) : s.sizeRefusal? subject size = none :=
  (s.sizeRefusal?_eq_none_iff subject size).mpr ⟨limit, hlimit, hsize⟩

theorem Rejects.refusal? (h : s.Rejects size config refusal) :
    (s.sizeRefusal? subject size).or (s.plausibilityRefusal? subject config) = some refusal := by
  cases h with
  | tooLarge hlimit hsize =>
    have hlarge : s.sizeRefusal? subject size =
        some (.tooLarge (s.maxUploadSize.display .int)) := by
      simp only [sizeRefusal?, hlimit, if_pos ((Limit.isBelow_iff _ _).mpr hsize)]
    rw [hlarge, Option.some_or]
  | @unfit limit minLength isShort hlimit hsize hlength hshort hproblems =>
    rw [sizeRefusal?_of_not_below subject hlimit hsize, Option.none_or]
    have hsame : minLength.isAbove config.length = isShort :=
      Bool.eq_iff_iff.mpr ((Limit.isAbove_iff _ _).trans hshort.symm)
    have hfound : s.problems config = .ok (Implausibility.judge config isShort) := by
      simp only [problems, hlength, hsame]
    obtain ⟨p, rest, hlist⟩ := List.exists_cons_of_ne_nil hproblems
    rw [plausibilityRefusal?, hfound, hlist]

theorem Stalls.refusal? {f : Failure} (h : s.Stalls size f) (config : Text) :
    (s.sizeRefusal? subject size).or (s.plausibilityRefusal? subject config) =
      some (s.failure subject f) := by
  cases h with
  | size hlimit =>
    rw [sizeRefusal?, hlimit, Option.some_or]
  | @length limit kind hlimit hsize hlength =>
    have hstuck : s.problems config = .error (.incomparable '<' kind) := by
      rw [problems, hlength]
    rw [sizeRefusal?_of_not_below subject hlimit hsize, Option.none_or, plausibilityRefusal?, hstuck]

/-- The common gates reject a configuration, cannot be tried, or let it pass. -/
theorem measured_cases (s : Settings) (size : Nat) (config : Text) :
    (∃ refusal, s.Rejects size config refusal) ∨ (∃ f, s.Stalls size f) ∨ s.Admits size config := by
  cases hlimit : s.maxUploadSize.limit with
  | error kind => exact .inr (.inl ⟨_, .size hlimit⟩)
  | ok limit =>
    by_cases hsize : limit.Below size
    · exact .inl ⟨_, .tooLarge hlimit hsize⟩
    · cases hlength : s.minConfigLength.limit with
      | error kind => exact .inr (.inl ⟨_, .length hlimit hsize hlength⟩)
      | ok minLength =>
        by_cases hproblems : Implausibility.judge config (minLength.isAbove config.length) = []
        · have hnone : s.problems config = .ok [] := by
            simp only [problems, hlength, hproblems]
          exact .inr (.inr ⟨⟨limit, hlimit, hsize⟩, hnone⟩)
        · exact .inl ⟨_, .unfit hlimit hsize hlength (Limit.isAbove_iff _ _) hproblems⟩

end Measured

section Text

theorem textRefusal?_of_not_blank (hblank : config.strip ≠ []) :
    s.textRefusal? config =
      (s.sizeRefusal? .text (Utf8.encode config).length).or
        (s.plausibilityRefusal? .text config) := by
  rw [textRefusal?, if_neg hblank, Option.none_or]

theorem RejectsText.refusal? (h : s.RejectsText config refusal) :
    s.textRefusal? config = some refusal := by
  cases h with
  | empty hblank => rw [textRefusal?, if_pos hblank, Option.some_or, Option.some_or]
  | measured hblank h => rw [textRefusal?_of_not_blank hblank, h.refusal?]

end Text

section File

variable {u : Upload} {name : Text}

theorem isTextFile_iff (name : Text) (contentType : Option Text) :
    isTextFile name contentType = true ↔
      (Text.lowercase name).endsWith ".txt" = true ∨ contentType = some ("text/plain" : Text) := by
  rw [isTextFile, Bool.or_eq_true, decide_eq_true_eq]
  rfl

theorem fileRefusal?_of_isTextFile (htype : isTextFile name u.contentType = true) :
    s.fileRefusal? name u =
      (s.sizeRefusal? .file u.content.length).or
        (s.plausibilityRefusal? .file (Utf8.decodeLossy u.content)) := by
  rw [fileRefusal?, if_pos htype, Option.none_or]

theorem acceptFile_of_fileRefusal? (hname : u.filename = some name) (hne : name ≠ [])
    (h : s.fileRefusal? name u = some refusal) : s.acceptFile (some u) = .error refusal := by
  obtain ⟨c, rest, rfl⟩ := List.exists_cons_of_ne_nil hne
  simp only [acceptFile, hname, h]

theorem RejectsFile.acceptFile_eq {upload : Option Upload} (h : s.RejectsFile upload refusal) :
    s.acceptFile upload = .error refusal := by
  cases h with
  | absent => rfl
  | unnamed hname =>
    rcases hname with hname | hname
    · simp only [acceptFile, hname]
    · simp only [acceptFile, hname]
  | @unsupported u name hname hne hending htype =>
    have hother : ¬isTextFile name u.contentType = true := by
      rw [isTextFile_iff, hending]
      exact not_or_intro Bool.false_ne_true htype
    apply acceptFile_of_fileRefusal? hname hne
    rw [fileRefusal?, if_neg hother, Option.some_or, Option.some_or]
  | measured hname hne htype h =>
    apply acceptFile_of_fileRefusal? hname hne
    rw [fileRefusal?_of_isTextFile ((isTextFile_iff _ _).mpr htype), h.refusal?]

/-- An upload is rejected, stopped at a gate that cannot be tried, or accepted. -/
theorem acceptFile_cases (s : Settings) (upload : Option Upload) :
    (∃ refusal, s.RejectsFile upload refusal) ∨
      (∃ size f, s.Stalls size f ∧ s.acceptFile upload = .error (s.failure .file f)) ∨
      ∃ f, s.acceptFile upload = .ok f := by
  rcases upload with _ | u
  · exact .inl ⟨_, .absent⟩
  by_cases hunnamed : u.filename = none ∨ u.filename = some []
  · exact .inl ⟨_, .unnamed hunnamed⟩
  obtain ⟨hnone, hempty⟩ := not_or.mp hunnamed
  obtain ⟨name, hname⟩ := Option.ne_none_iff_exists'.mp hnone
  have hne : name ≠ [] := by
    rintro rfl
    exact hempty hname
  cases htype : isTextFile name u.contentType with
  | false =>
    have hother := mt (isTextFile_iff name u.contentType).mpr (ne_true_of_eq_false htype)
    obtain ⟨hending, hplain⟩ := not_or.mp hother
    exact .inl ⟨_, .unsupported hname hne (Bool.not_eq_true _ |>.mp hending) hplain⟩
  | true =>
    rcases s.measured_cases u.content.length (Utf8.decodeLossy u.content) with
      ⟨refusal, h⟩ | ⟨f, h⟩ | hadmits
    · exact .inl ⟨refusal, .measured hname hne ((isTextFile_iff _ _).mp htype) h⟩
    · have hrefusal := (fileRefusal?_of_isTextFile (s := s) htype).trans (h.refusal? .file _)
      exact .inr (.inl ⟨_, f, h, acceptFile_of_fileRefusal? hname hne hrefusal⟩)
    · have haccept := (s.acceptFile_eq_ok_iff (some u) _).mpr
        ⟨u, name, rfl, hname, hne, htype, hadmits, rfl⟩
      exact .inr (.inr ⟨_, haccept⟩)

end File

/-- The settings that an analysis depends on hold values of their own kinds. -/
structure Proper (s : Settings) : Prop where
  maxUploadSize : ∃ n, s.maxUploadSize = .proper n
  minConfigLength : ∃ n, s.minConfigLength = .proper n
  weakPasswordCaseSensitive : ∃ b, s.weakPasswordCaseSensitive = .proper b
  extendedBestPractices : ∃ b, s.extendedBestPractices = .proper b
  keywordCredentials : ∃ b, s.keywordCredentials = .proper b
  skipCommentLines : ∃ b, s.skipCommentLines = .proper b

end Settings

namespace Service

/-- A limit is no number or, while there is no auditor, a switch is none. -/
inductive Misset (s : Service) : Prop where
  | maxUploadSize {kind : Text} (h : s.settings.maxUploadSize.limit = .error kind)
  | minConfigLength {kind : Text} (h : s.settings.minConfigLength.limit = .error kind)
  | policy {misfits : List Misfit} (hnone : s.auditor = none)
      (h : s.settings.policy = .faulty misfits)

theorem misset_of_stalls {s : Service} {size : Nat} {f : Failure} (h : s.settings.Stalls size f) :
    s.Misset := by
  cases h with
  | size hlimit => exact .maxUploadSize hlimit
  | length _ _ hlength => exact .minConfigLength hlength

theorem not_misset_of_proper {s : Service} (h : s.settings.Proper) : ¬s.Misset := by
  obtain ⟨⟨n, hsize⟩, ⟨m, hlength⟩, ⟨a, ha⟩, ⟨b, hb⟩, ⟨c, hc⟩, ⟨d, hd⟩⟩ := h
  rintro (hlimit | hlimit | ⟨-, hpolicy⟩)
  · rw [hsize] at hlimit
    cases hlimit
  · rw [hlength] at hlimit
    cases hlimit
  · rw [Settings.policy, ha, hb, hc, hd] at hpolicy
    cases hpolicy

/-- Without an auditor of its own or one that it can make, a service is misset. -/
theorem obtainAuditor_cases (s : Service) :
    (∃ a, s.obtainAuditor.1 = .ok a) ∨ ((∃ f, s.obtainAuditor.1 = .error f) ∧ s.Misset) := by
  cases hkept : s.auditor with
  | some a => exact .inl ⟨a, by rw [obtainAuditor_of_some hkept]⟩
  | none =>
    cases hpolicy : s.settings.policy with
    | ok p => exact .inl ⟨{ policy := p }, by simp only [obtainAuditor, hkept, hpolicy]⟩
    | faulty misfits =>
      exact .inr ⟨⟨.policy misfits, by simp only [obtainAuditor, hkept, hpolicy]⟩,
        .policy hkept hpolicy⟩

end Service

/-- The status that the outcome of a handler is answered with. -/
def answerStatus {α : Type} : Except Refusal α → Nat
  | .ok _ => 200
  | .error refusal => refusal.status

theorem answerStatus_map {α β : Type} (f : α → β) (x : Except Refusal α) :
    answerStatus (x.map f) = answerStatus x := by
  cases x <;> rfl

/-- How the answers of a handler depend on the engine, for an input of which some refusals are due
to its gates. -/
structure FailsBehindGates {α : Type} (s : Service) (rejects : Refusal → Prop)
    (answer : Engine → Except Refusal α × Service) : Prop where
  /-- A failing engine is noticed unless a gate rejects the input. -/
  failing_iff : ∀ message, answerStatus (answer (.failing message)).1 = 500 ↔
    answerStatus (answer .working).1 = 200 ∨ answerStatus (answer .working).1 = 500
  /-- With the working engine nothing fails but for want of a setting. -/
  misset : answerStatus (answer .working).1 = 500 → s.Misset
  proper : s.settings.Proper → ∀ message,
    (answerStatus (answer (.failing message)).1 = 500 ↔ answerStatus (answer .working).1 = 200)
  /-- All other answers do not depend on the engine. -/
  identical : ∀ message, answerStatus (answer .working).1 ≠ 200 →
    answerStatus (answer .working).1 ≠ 500 →
      answer (.failing message) = answer .working ∧
        (answerStatus (answer .working).1 = 400 ∨ answerStatus (answer .working).1 = 413)
  /-- They are the refusals of the gates, which leave the service as it is. -/
  rejected_iff : ∀ engine refusal, refusal.status ≠ 500 →
    (answer engine = (.error refusal, s) ↔ rejects refusal)

namespace Refusal

theorem status_ne_ok (refusal : Refusal) : refusal.status ≠ 200 := by
  cases refusal <;> simp [status]

end Refusal

/-- What an input comes to that no gate rejects. -/
structure Unrejected {α : Type} (s : Service) (answer : Engine → Except Refusal α × Service) :
    Prop where
  failing : ∀ message, answerStatus (answer (.failing message)).1 = 500
  working : answerStatus (answer .working).1 = 200 ∨
    (answerStatus (answer .working).1 = 500 ∧ s.Misset)

namespace FailsBehindGates

variable {α : Type} {s : Service} {rejects : Refusal → Prop}
  {answer : Engine → Except Refusal α × Service}
  (hrejects : ∀ refusal, rejects refusal → ∀ engine, answer engine = (.error refusal, s))
include hrejects

/-- A refusal by a gate is the same for every engine, so nothing shows. -/
theorem of_rejected {refusal : Refusal} (h : rejects refusal)
    (hstatus : refusal.status = 400 ∨ refusal.status = 413) :
    FailsBehindGates s rejects answer := by
  have hanswer := hrejects refusal h
  have hcode (engine : Engine) : answerStatus (answer engine).1 = refusal.status := by
    rw [hanswer]
    rfl
  constructor
  · intro message
    rw [hcode, hcode]
    omega
  · intro hfailed
    rw [hcode] at hfailed
    omega
  · intro _ message
    rw [hcode, hcode]
    omega
  · intro message _ _
    rw [hcode, hanswer, hanswer]
    exact ⟨rfl, hstatus⟩
  · intro engine other _
    constructor
    · intro hother
      have hsame := Prod.ext_iff.mp ((hanswer engine).symm.trans hother)
      rwa [← Except.error.inj hsame.1]
    · intro hother
      exact hrejects other hother engine

theorem of_unrejected (h : Unrejected s answer) : FailsBehindGates s rejects answer := by
  have hserved := h.working.imp_right And.left
  have hmisset : answerStatus (answer .working).1 = 500 → s.Misset := by
    intro hfailed
    rcases h.working with hok | ⟨-, hmisset⟩
    · omega
    · exact hmisset
  constructor
  · intro message
    exact iff_of_true (h.failing message) hserved
  · exact hmisset
  · intro hproper message
    have hnever : answerStatus (answer .working).1 ≠ 500 := fun hfailed =>
      Service.not_misset_of_proper hproper (hmisset hfailed)
    exact iff_of_true (h.failing message) (hserved.resolve_right hnever)
  · intro message hok hfailed
    exact absurd hserved (not_or_intro hok hfailed)
  · intro engine refusal hstatus
    constructor
    · intro hanswer
      have hcode : answerStatus (answer engine).1 = refusal.status := by
        rw [hanswer]
        rfl
      have hother := refusal.status_ne_ok
      cases engine with
      | failing message =>
        have hfailing := h.failing message
        omega
      | working => omega
    · intro hrefusal
      exact hrejects refusal hrefusal engine

end FailsBehindGates

namespace Service

variable (s : Service)

/-- Behind the gates, every failing engine is noticed, and the working one fails only if no auditor
can be had. -/
theorem answerStatus_tryAnalyze (subject : Subject) (config : Text) (password : Option Text) :
    Unrejected s fun engine => s.tryAnalyze engine subject config password := by
  constructor
  · intro message
    rfl
  · rw [tryAnalyze_working]
    rcases s.obtainAuditor_cases with ⟨a, ha⟩ | ⟨⟨f, hf⟩, hmisset⟩
    · rw [ha]
      exact .inl rfl
    · rw [hf]
      exact .inr ⟨rfl, hmisset⟩

/-- A gate that cannot be tried stops every engine alike. -/
theorem unrejected_of_stalls {α : Type} {answer : Engine → Except Refusal α × Service}
    {subject : Subject} {size : Nat} {f : Failure} (h : s.settings.Stalls size f)
    (hanswer : ∀ engine, answer engine = (.error (s.settings.failure subject f), s)) :
    Unrejected s answer := by
  have hcode (engine : Engine) : answerStatus (answer engine).1 = 500 := by
    rw [hanswer]
    rfl
  exact ⟨fun message => hcode (.failing message), .inr ⟨hcode .working, misset_of_stalls h⟩⟩

theorem handleText_of_refusal {r : TextRequest} {refusal : Refusal}
    (h : s.settings.textRefusal? r.configText = some refusal) (engine : Engine) :
    s.handleText engine r = (.error refusal, s) := by
  rw [handleText, h]

theorem handleText_failsBehindGates (r : TextRequest) :
    FailsBehindGates s (s.settings.RejectsText r.configText) fun engine =>
      s.handleText engine r := by
  have hrejects (refusal : Refusal) (h : s.settings.RejectsText r.configText refusal)
      (engine : Engine) : s.handleText engine r = (.error refusal, s) :=
    s.handleText_of_refusal h.refusal? engine
  by_cases hblank : r.configText.strip = []
  · exact .of_rejected hrejects (.empty hblank) (.inl rfl)
  have hgates := Settings.textRefusal?_of_not_blank (s := s.settings) hblank
  rcases s.settings.measured_cases (Utf8.encode r.configText).length r.configText with
    ⟨refusal, h⟩ | ⟨f, h⟩ | hadmits
  · exact .of_rejected hrejects (.measured hblank h) h.status
  · have hstalls := hgates.trans (h.refusal? .text r.configText)
    exact .of_unrejected hrejects (s.unrejected_of_stalls h (s.handleText_of_refusal hstalls))
  · have hnone := (s.settings.textRefusal?_eq_none_iff r.configText).mpr hadmits
    have hbehind := s.answerStatus_tryAnalyze .text r.configText r.password
    refine .of_unrejected hrejects ⟨fun message => ?_, ?_⟩
    · simp only [handleText, hnone, answerStatus_map]
      exact hbehind.failing message
    · simp only [handleText, hnone, answerStatus_map]
      exact hbehind.working

theorem handleFile_of_refusal {file configFile : Option Upload} {refusal : Refusal}
    (h : s.settings.acceptFile (file.or configFile) = .error refusal) (password : Option Text)
    (engine : Engine) : s.handleFile engine file configFile password = (.error refusal, s) := by
  rw [handleFile, h]

theorem handleFile_failsBehindGates (file configFile : Option Upload) (password : Option Text) :
    FailsBehindGates s (s.settings.RejectsFile (file.or configFile)) fun engine =>
      s.handleFile engine file configFile password := by
  have hrejects (refusal : Refusal) (h : s.settings.RejectsFile (file.or configFile) refusal)
      (engine : Engine) : s.handleFile engine file configFile password = (.error refusal, s) :=
    s.handleFile_of_refusal h.acceptFile_eq password engine
  rcases s.settings.acceptFile_cases (file.or configFile) with
    ⟨refusal, h⟩ | ⟨size, f, h, haccept⟩ | ⟨f, haccept⟩
  · exact .of_rejected hrejects h h.status
  · have hstopped := s.handleFile_of_refusal haccept password
    exact .of_unrejected hrejects (s.unrejected_of_stalls h hstopped)
  · have hbehind := s.answerStatus_tryAnalyze .file f.config password
    refine .of_unrejected hrejects ⟨fun message => ?_, ?_⟩
    · simp only [handleFile, haccept, answerStatus_map]
      exact hbehind.failing message
    · simp only [handleFile, haccept, answerStatus_map]
      exact hbehind.working

/-- The answers to a text and to a file depend on the engine only behind their gates. -/
theorem handlers_failBehindGates :
    (∀ r : TextRequest, FailsBehindGates s (s.settings.RejectsText r.configText) fun engine =>
      s.handleText engine r) ∧
    ∀ (file configFile : Option Upload) (password : Option Text),
      FailsBehindGates s (s.settings.RejectsFile (file.or configFile)) fun engine =>
        s.handleFile engine file configFile password :=
  ⟨s.handleText_failsBehindGates, s.handleFile_failsBehindGates⟩

/-- A limit that was assigned as a text fails with the working engine too. -/
theorem handleText_fails_misset :
    ¬∀ (s : Service) (r : TextRequest) (message : Text),
      (answerStatus (s.handleText (.failing message) r).1 = 500 ↔
        answerStatus (s.handleText .working r).1 = 200) := by
  intro hall
  have hiff := hall (({} : Service).assign "MAX_UPLOAD_SIZE" (.str "10485760"))
    ⟨"interface Gi0/1", none⟩ "down"
  have hok := hiff.mp rfl
  cases hok

end Service
end ConfigAudit
