import ConfigAudit.Proofs.Number.Binary64
import ConfigAudit.Service.Handling
import Mathlib.Tactic.Common

/-! What the gates of the service let through, and what it then answers. A text and a file are
tried by gates of their own, in different orders, which come down to one condition. -/
namespace ConfigAudit

section Outcome

variable {ε ε' α β : Type}

theorem map_eq_ok_iff {x : Except ε α} {f : α → β} {b : β} :
    x.map f = .ok b ↔ ∃ a, x = .ok a ∧ f a = b := by
  cases x <;> simp [Except.map]

theorem mapError_eq_ok_iff {x : Except ε α} {f : ε → ε'} {a : α} :
    x.mapError f = .ok a ↔ x = .ok a := by
  cases x <;> simp [Except.mapError]

theorem toOption_eq_some_iff {x : Except ε α} {a : α} : x.toOption = some a ↔ x = .ok a := by
  cases x <;> simp [Except.toOption]

end Outcome

namespace Limit

/-- The limit is less than a size. -/
def Below (size : Nat) : Limit → Prop
  | whole n => n < size
  | real x => x.Below size

/-- The limit is greater than a size. -/
def Above (size : Nat) : Limit → Prop
  | whole n => size < n
  | real x => x.Above size

theorem isBelow_iff (l : Limit) (size : Nat) : l.isBelow size = true ↔ l.Below size := by
  cases l with
  | whole n => exact decide_eq_true_iff
  | real x => exact x.isBelow_iff size

theorem isAbove_iff (l : Limit) (size : Nat) : l.isAbove size = true ↔ l.Above size := by
  cases l with
  | whole n => exact decide_eq_true_iff
  | real x => exact x.isAbove_iff size

theorem Below.mono {l : Limit} {size larger : Nat} (h : l.Below size) (hle : size ≤ larger) :
    l.Below larger := by
  have hcast : (size : Int) ≤ larger := Int.ofNat_le.mpr hle
  cases l with
  | whole n => exact Int.lt_of_lt_of_le h hcast
  | real x => exact Binary64.Below.mono h hcast

end Limit

namespace Settings

variable (s : Settings) (subject : Subject)

/-- A configuration of some size in bytes that is neither too large nor implausible. -/
structure Admits (size : Nat) (config : Text) : Prop where
  size_le : ∃ limit, s.maxUploadSize.limit = .ok limit ∧ ¬limit.Below size
  problems_eq_nil : s.problems config = .ok []

theorem sizeRefusal?_eq_none_iff (size : Nat) :
    s.sizeRefusal? subject size = none ↔
      ∃ limit, s.maxUploadSize.limit = .ok limit ∧ ¬limit.Below size := by
  unfold sizeRefusal?
  cases s.maxUploadSize.limit with
  | error kind => simp
  | ok limit => simp [← Limit.isBelow_iff]

theorem plausibilityRefusal?_eq_none_iff (config : Text) :
    s.plausibilityRefusal? subject config = none ↔ s.problems config = .ok [] := by
  unfold plausibilityRefusal?
  split <;> simp_all

/-- Blank texts are implausible, so the first gate for a text keeps out nothing that the last one
would let pass. -/
theorem strip_ne_nil_of_problems {config : Text} (h : s.problems config = .ok []) :
    config.strip ≠ [] := by
  intro hblank
  unfold problems at h
  cases hlimit : s.minConfigLength.limit with
  | error kind =>
    rw [hlimit] at h
    cases h
  | ok limit =>
    rw [hlimit] at h
    have hnone := Except.ok.inj h
    rw [Implausibility.judge, if_pos hblank] at hnone
    cases hnone

theorem textRefusal?_eq_none_iff (config : Text) :
    s.textRefusal? config = none ↔ s.Admits (Utf8.encode config).length config := by
  unfold textRefusal?
  rw [Option.or_eq_none_iff, Option.or_eq_none_iff, sizeRefusal?_eq_none_iff,
    plausibilityRefusal?_eq_none_iff]
  constructor
  · rintro ⟨⟨-, hsize⟩, hproblems⟩
    exact ⟨hsize, hproblems⟩
  · rintro ⟨hsize, hproblems⟩
    exact ⟨⟨if_neg (s.strip_ne_nil_of_problems hproblems), hsize⟩, hproblems⟩

theorem fileRefusal?_eq_none_iff (name : Text) (u : Upload) :
    s.fileRefusal? name u = none ↔
      isTextFile name u.contentType = true ∧
        s.Admits u.content.length (Utf8.decodeLossy u.content) := by
  unfold fileRefusal?
  rw [Option.or_eq_none_iff, Option.or_eq_none_iff, sizeRefusal?_eq_none_iff,
    plausibilityRefusal?_eq_none_iff]
  constructor
  · rintro ⟨⟨htype, hsize⟩, hproblems⟩
    refine ⟨?_, hsize, hproblems⟩
    by_contra hother
    rw [if_neg hother] at htype
    cases htype
  · rintro ⟨htype, hsize, hproblems⟩
    exact ⟨⟨if_pos htype, hsize⟩, hproblems⟩

/-- Only a file with a name is accepted. -/
theorem acceptFile_eq_ok_iff (upload : Option Upload) (f : AcceptedFile) :
    s.acceptFile upload = .ok f ↔
      ∃ u name, upload = some u ∧ u.filename = some name ∧ name ≠ [] ∧
        isTextFile name u.contentType = true ∧
        s.Admits u.content.length (Utf8.decodeLossy u.content) ∧
        f = ⟨name, u.content.length, Utf8.decodeLossy u.content⟩ := by
  simp only [← fileRefusal?_eq_none_iff, ← and_assoc]
  unfold acceptFile
  cases upload with
  | none => simp
  | some u =>
    cases hname : u.filename with
    | none => simp [hname]
    | some name =>
      cases name with
      | nil => simp [hname]
      | cons c r => cases hrefusal : s.fileRefusal? (c :: r) u <;> simp [hname, hrefusal, eq_comm]

end Settings

namespace Service

variable (s : Service)

/-- The result of an analysis, if there is one. -/
def analysis? : Engine → Text → Option Text → Option AuditResult
  | .working, config, password => s.obtainAuditor.1.toOption.map (·.analyze config password)
  | .failing _, _, _ => none

/-- Whether an analysis succeeds does not depend on what was sent. -/
theorem tryAnalyze_eq_ok_iff (engine : Engine) (subject : Subject) (config : Text)
    (password : Option Text) (a : AuditResult) :
    (s.tryAnalyze engine subject config password).1 = .ok a ↔
      s.analysis? engine config password = some a := by
  cases engine with
  | failing message => simp [tryAnalyze, analysis?]
  | working =>
    simp only [tryAnalyze, analyze, analysis?, mapError_eq_ok_iff, map_eq_ok_iff,
      Option.map_eq_some_iff, toOption_eq_some_iff]

theorem handleText_eq_ok_iff (engine : Engine) (r : TextRequest) (report : TextReport) :
    (s.handleText engine r).1 = .ok report ↔
      s.settings.Admits (Utf8.encode r.configText).length r.configText ∧
        ∃ a, s.analysis? engine r.configText r.password = some a ∧
          ⟨.ofScore a.securityScore, a, r.configText.length⟩ = report := by
  rw [← Settings.textRefusal?_eq_none_iff]
  unfold handleText
  cases s.settings.textRefusal? r.configText with
  | some refusal => simp
  | none => simp only [map_eq_ok_iff, tryAnalyze_eq_ok_iff, true_and]

theorem handleFile_eq_ok_iff (engine : Engine) (file configFile : Option Upload)
    (password : Option Text) (report : FileReport) :
    (s.handleFile engine file configFile password).1 = .ok report ↔
      ∃ f, s.settings.acceptFile (file.or configFile) = .ok f ∧
        ∃ a, s.analysis? engine f.config password = some a ∧
          ⟨f.filename, f.size, .ofScore a.securityScore, a⟩ = report := by
  unfold handleFile
  cases s.settings.acceptFile (file.or configFile) with
  | error refusal => simp
  | ok f => simp only [map_eq_ok_iff, tryAnalyze_eq_ok_iff, Except.ok.injEq, exists_eq_left']

end Service
end ConfigAudit
