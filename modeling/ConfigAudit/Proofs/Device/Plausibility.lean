import ConfigAudit.Device.Plausibility
import ConfigAudit.Proofs.Text.Lowercase
import ConfigAudit.Proofs.Text.Search

/-! What speaks against a text. Each problem is reported for a reason of its own. A text without
problems has none amid other texts either, since they take neither a keyword nor length from it. -/
namespace ConfigAudit

namespace Implausibility

/-- A keyword is there in some case. -/
def Recognized (content : Text) : Prop := ∃ k ∈ keywords, k <:+: Text.lowercase content

theorem any_keywords_iff (content : Text) :
    (keywords.any fun k => (Text.lowercase content).includes k) = true ↔ Recognized content := by
  simp only [List.any_eq_true, Text.includes_iff_infix, Recognized]

/-- Blanks have no case, so no keyword comes out of them. -/
theorem not_recognized_of_blank {content : Text} (h : ∀ c ∈ content, Text.isBlank c = true) :
    ¬Recognized content := by
  rintro ⟨k, hk, hfound⟩
  have hvisible : ∀ k ∈ keywords, k.strip ≠ [] := by decide
  rw [Text.lowercase_of_blank h] at hfound
  exact hvisible k hk (Text.strip_eq_nil_iff.mpr fun c hc => h c (hfound.subset hc))

theorem Recognized.amid {content : Text} (h : Recognized content) (before after : Text) :
    Recognized (before ++ content ++ after) := by
  obtain ⟨k, hk, hfound⟩ := h
  have hsigma : ∀ k ∈ keywords, '\u03C2' ∉ k ∧ '\u03C3' ∉ k := by decide
  obtain ⟨hfinal, hmedial⟩ := hsigma k hk
  exact ⟨k, hk, Text.infix_lowercase_append hfinal hmedial hfound before after⟩

section Problems

variable (content : Text) (minLength : Int)

theorem of_sublist : (of content minLength).Sublist [empty, tooShort, unrecognized] := by
  unfold of judge
  split_ifs <;> decide

theorem empty_mem_iff : empty ∈ of content minLength ↔ ∀ c ∈ content, Text.isBlank c = true := by
  rw [← Text.strip_eq_nil_iff]
  simp [of, judge]

theorem tooShort_mem_iff : tooShort ∈ of content minLength ↔ content.length < minLength := by
  simp [of, judge]

theorem unrecognized_mem_iff : unrecognized ∈ of content minLength ↔ ¬Recognized content := by
  rw [← any_keywords_iff]
  simp [of, judge]

/-- A recognized text is not blank. -/
theorem of_eq_nil_iff :
    of content minLength = [] ↔ minLength ≤ content.length ∧ Recognized content := by
  rw [List.eq_nil_iff_forall_not_mem]
  constructor
  · intro hnone
    exact ⟨Int.not_lt.mp (mt (tooShort_mem_iff content minLength).mpr (hnone tooShort)),
      not_not.mp (mt (unrecognized_mem_iff content minLength).mpr (hnone unrecognized))⟩
  · rintro ⟨hlength, hrecognized⟩ problem
    cases problem with
    | empty =>
      rw [empty_mem_iff]
      exact fun hblank => not_recognized_of_blank hblank hrecognized
    | tooShort =>
      rw [tooShort_mem_iff]
      exact Int.not_lt.mpr hlength
    | unrecognized =>
      rw [unrecognized_mem_iff]
      exact not_not_intro hrecognized

end Problems

theorem message_injective : Function.Injective message := by
  intro p q
  cases p <;> cases q <;> decide

end Implausibility

namespace ContentValidation

/-- What is reported on a text, by the reasons that there are for it. -/
structure Exact (content : Text) (minLength : Int) (v : ContentValidation) : Prop where
  errors_sublist : v.errors.Sublist
    (([.empty, .tooShort, .unrecognized] : List Implausibility).map (·.message))
  empty_iff : Implausibility.empty.message ∈ v.errors ↔ ∀ c ∈ content, Text.isBlank c = true
  tooShort_iff : Implausibility.tooShort.message ∈ v.errors ↔ content.length < minLength
  unrecognized_iff : Implausibility.unrecognized.message ∈ v.errors ↔
    ∀ k ∈ Implausibility.keywords, ¬k <:+: Text.lowercase content
  valid_iff : v.valid = true ↔
    minLength ≤ content.length ∧ ∃ k ∈ Implausibility.keywords, k <:+: Text.lowercase content
  unrecognized_of_blank : (∀ c ∈ content, Text.isBlank c = true) →
    Implausibility.unrecognized.message ∈ v.errors

theorem message_mem_iff (problem : Implausibility) (content : Text) (minLength : Int) :
    problem.message ∈ (of content minLength).errors ↔
      problem ∈ Implausibility.of content minLength :=
  List.mem_map_of_injective Implausibility.message_injective

theorem valid_of_iff (content : Text) (minLength : Int) :
    (of content minLength).valid = true ↔
      minLength ≤ content.length ∧ Implausibility.Recognized content := by
  rw [← Implausibility.of_eq_nil_iff, ← List.isEmpty_iff]
  rfl

/-- A text is reported on for just the reasons that there are, and a valid one is valid amid any
others. -/
theorem of_exact (content : Text) (minLength : Int) :
    Exact content minLength (of content minLength) ∧
      ((of content minLength).valid = true → ∀ before after : Text,
        (of (before ++ content ++ after) minLength).valid = true) := by
  have hunrecognized : Implausibility.unrecognized.message ∈ (of content minLength).errors ↔
      ¬Implausibility.Recognized content := by
    rw [message_mem_iff, Implausibility.unrecognized_mem_iff]
  refine ⟨⟨?_, ?_, ?_, ?_, valid_of_iff content minLength, ?_⟩, ?_⟩
  · exact (Implausibility.of_sublist content minLength).map _
  · rw [message_mem_iff, Implausibility.empty_mem_iff]
  · rw [message_mem_iff, Implausibility.tooShort_mem_iff]
  · rw [hunrecognized, Implausibility.Recognized]
    simp only [not_exists, not_and]
  · intro hblank
    exact hunrecognized.mpr (Implausibility.not_recognized_of_blank hblank)
  · intro hvalid before after
    obtain ⟨hlength, hrecognized⟩ := (valid_of_iff content minLength).mp hvalid
    rw [valid_of_iff]
    refine ⟨?_, hrecognized.amid before after⟩
    rw [List.length_append, List.length_append]
    omega

end ContentValidation
end ConfigAudit
