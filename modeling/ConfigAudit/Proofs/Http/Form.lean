import ConfigAudit.Http.Reading
import Mathlib.Tactic.Common

/-! Bodies that can be read. A form is read if it is what its media type announces and stays within
the limits of its reader, which counts the parts as they come. -/
namespace ConfigAudit.Http

namespace Part

def isFile (p : Part) : Bool :=
  match p.content with
  | .text _ => false
  | .file _ => true

/-- The bytes of a field. Those of a file are not counted. -/
def fieldSize (p : Part) : Nat :=
  match p.content with
  | .text t => (Utf8.encode t).length
  | .file _ => 0

end Part

/-- What a form reader takes. Only fields that are sent as parts are limited in size. -/
structure WithinLimits (sizeLimited : Bool) (parts : List Part) : Prop where
  fields : parts.countP (!·.isFile) ≤ FormFault.maxParts
  files : parts.countP (·.isFile) ≤ FormFault.maxParts
  sizes : sizeLimited = true → ∀ p ∈ parts, p.fieldSize ≤ FormFault.maxPartSize

section Faults

variable (sizeLimited : Bool) {fields files : Nat}

/-- The reader finds no fault if what it has counted and what is to come stay within the limits. -/
theorem partsFault?_eq_none_iff (hfields : fields ≤ FormFault.maxParts)
    (hfiles : files ≤ FormFault.maxParts) (parts : List Part) :
    partsFault? sizeLimited fields files parts = none ↔
      fields + parts.countP (!·.isFile) ≤ FormFault.maxParts ∧
      files + parts.countP (·.isFile) ≤ FormFault.maxParts ∧
      (sizeLimited = true → ∀ p ∈ parts, p.fieldSize ≤ FormFault.maxPartSize) := by
  induction parts generalizing fields files with
  | nil => simp [partsFault?, hfields, hfiles]
  | cons part others ih =>
    obtain ⟨name, content⟩ := part
    rw [List.forall_mem_cons]
    cases content with
    | text t =>
      have hcount :
          (⟨name, .text t⟩ :: others).countP (!·.isFile) = others.countP (!·.isFile) + 1 :=
        List.countP_cons_of_pos rfl
      have hfile : (⟨name, .text t⟩ :: others).countP (·.isFile) = others.countP (·.isFile) :=
        List.countP_cons_of_neg Bool.false_ne_true
      rw [partsFault?, hcount, hfile]
      split_ifs with hmany hlarge
      · exact iff_of_false not_false (by omega)
      · obtain ⟨hlimited, hsize⟩ := Bool.and_eq_true_iff.mp hlarge
        refine iff_of_false not_false fun ⟨_, _, hsizes⟩ => ?_
        exact Nat.not_le_of_lt (of_decide_eq_true hsize) (hsizes hlimited).1
      · rw [ih (by omega) hfiles]
        refine and_congr (by omega) (and_congr_right fun _ => imp_congr_right fun hlimited => ?_)
        have hsize : Part.fieldSize ⟨name, .text t⟩ ≤ FormFault.maxPartSize := by
          simpa [hlimited, Part.fieldSize] using hlarge
        rw [and_iff_right hsize]
    | file u =>
      have hcount : (⟨name, .file u⟩ :: others).countP (!·.isFile) = others.countP (!·.isFile) :=
        List.countP_cons_of_neg Bool.false_ne_true
      have hfile : (⟨name, .file u⟩ :: others).countP (·.isFile) = others.countP (·.isFile) + 1 :=
        List.countP_cons_of_pos rfl
      rw [partsFault?, hcount, hfile]
      split_ifs with hmany
      · exact iff_of_false not_false (by omega)
      · rw [ih hfields (by omega)]
        refine and_congr_right fun _ => and_congr (by omega) (imp_congr_right fun _ => ?_)
        have hsize : Part.fieldSize ⟨name, .file u⟩ ≤ FormFault.maxPartSize := Nat.zero_le _
        rw [and_iff_right hsize]

theorem limitParts_of_within {parts : List Part} (h : WithinLimits sizeLimited parts) :
    limitParts sizeLimited parts = .ok parts := by
  have hnone : partsFault? sizeLimited 0 0 parts = none := by
    rw [partsFault?_eq_none_iff sizeLimited (Nat.zero_le _) (Nat.zero_le _), Nat.zero_add,
      Nat.zero_add]
    exact ⟨h.fields, h.files, h.sizes⟩
  rw [limitParts, hnone]

end Faults

namespace Request

variable {w : Framework} {r : Request}

/-- A body that is what its media type announces. Anything can be read as the fields of a form, so
only JSON and forms in parts ask for a body of their own. -/
structure WellFormed (w : Framework) (r : Request) : Prop where
  json : w.readsJson r.mediaType = true →
    r.body.isEmpty = true ∨ (∃ j, r.body = .json j) ∨
      ∃ bytes j, r.body = .raw bytes ∧ w.readJson bytes = .ok j
  multipart : formType r.mediaType = "multipart/form-data" →
    ∃ boundary, boundary? r.mediaType = some boundary ∧
      (r.body.isEmpty = true ∨ (∃ bytes, r.body = .raw bytes) ∨
        (∃ parts, r.body = .multipart parts) ∧ sentBoundary? r.mediaType = some boundary)

/-- A form in the body stays within the limits of its reader. Whether the reader takes a body that
was not written as the form that it is announced as, it says itself. -/
structure FormWithinLimits (w : Framework) (r : Request) : Prop where
  fields : ∀ parts, r.body = .fields parts →
    formType r.mediaType = "application/x-www-form-urlencoded" → WithinLimits false parts
  multipart : ∀ parts, r.body = .multipart parts →
    formType r.mediaType = "multipart/form-data" → WithinLimits true parts
  other : r.body.isEmpty = false →
    (formType r.mediaType = "multipart/form-data" ∧ ∃ bytes, r.body = .raw bytes) ∨
      (formType r.mediaType = "application/x-www-form-urlencoded" ∧
        ∀ parts, r.body ≠ .fields parts) →
    ∃ parts, w.readForm r.mediaType r.body = .ok parts

theorem exists_record_eq_ok (h : r.WellFormed w) {α : Type}
    (fields : List (Text × Json) → Decoded α) : ∃ decoded, r.record w fields = .ok decoded := by
  unfold record
  by_cases hempty : r.body.isEmpty = true
  · exact ⟨_, if_pos hempty⟩
  rw [if_neg hempty]
  split_ifs with hjson
  · have hread : ∃ j, r.body.readJson w = .ok j := by
      rcases h.json hjson with habsent | ⟨j, hbody⟩ | ⟨bytes, j, hbody, hread⟩
      · exact absurd habsent hempty
      · exact ⟨j, by rw [hbody, Body.readJson]⟩
      · exact ⟨j, by rw [hbody, Body.readJson, hread]⟩
    obtain ⟨j, hj⟩ := hread
    rw [hj]
    cases j with
    | obj members => exact ⟨_, rfl⟩
    | _ => exact ⟨_, rfl⟩
  · exact ⟨_, rfl⟩

theorem exists_parts_eq_ok (h : r.WellFormed w) (hlimits : r.FormWithinLimits w) :
    ∃ parts, r.parts w = .ok parts := by
  unfold Request.parts
  dsimp only
  by_cases hempty : r.body.isEmpty = true
  · split_ifs with htype hfields
    · obtain ⟨boundary, hboundary, -⟩ := h.multipart htype
      rw [hboundary]
      exact ⟨[], rfl⟩
    · exact ⟨[], rfl⟩
    · exact ⟨[], rfl⟩
  have hfilled : r.body.isEmpty = false := Bool.eq_false_iff.mpr hempty
  simp only [if_neg hempty]
  split_ifs with htype hfields
  · obtain ⟨boundary, hboundary, habsent | ⟨bytes, hbytes⟩ | ⟨⟨parts, hparts⟩, hsent⟩⟩ :=
      h.multipart htype
    · exact absurd habsent hempty
    · have hread := hlimits.other hfilled (.inl ⟨htype, bytes, hbytes⟩)
      rw [hbytes] at hread
      rw [hboundary, hbytes]
      exact hread
    · have hwithin := limitParts_of_within true (hlimits.multipart parts hparts htype)
      rw [hboundary, hparts]
      exact ⟨parts, (if_pos hsent).trans hwithin⟩
  · cases hbody : r.body with
    | fields parts =>
      exact ⟨parts, limitParts_of_within false (hlimits.fields parts hbody hfields)⟩
    | _ =>
      have hread := hlimits.other hfilled (.inr ⟨hfields, by rw [hbody]; nofun⟩)
      rw [hbody] at hread
      exact hread
  · exact ⟨[], rfl⟩

end Request
end ConfigAudit.Http
