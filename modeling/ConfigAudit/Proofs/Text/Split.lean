import ConfigAudit.Text.Basic
import Mathlib.Data.List.DropRight

/-! Texts in pieces. Splitting and joining undo each other, and stripping takes away just the blanks
around a text. -/
namespace ConfigAudit.Text

theorem split_eq_splitOnP (separator : Char) (t : Text) :
    t.split separator = t.splitOnP (· == separator) := by
  induction t with
  | nil => rfl
  | cons c r ih =>
    rw [split, ih, List.splitOnP_cons_eq_if_modifyHead]
    by_cases hc : c = separator <;> simp [hc]

/-- Growing the first of some texts changes no other. -/
theorem mem_of_mem_modifyHead_cons {c : Char} {texts : List Text} {w : Text}
    (hw : w ∈ texts.modifyHead (c :: ·)) : w ∈ texts ∨ ∃ first ∈ texts, w = c :: first := by
  cases texts with
  | nil => cases hw
  | cons first others =>
    rw [List.modifyHead_cons, List.mem_cons] at hw
    rcases hw with rfl | hw
    · exact .inr ⟨first, List.mem_cons_self, rfl⟩
    · exact .inl (List.mem_cons_of_mem first hw)

theorem notMem_of_mem_split {separator : Char} {t piece : Text} (h : piece ∈ t.split separator) :
    separator ∉ piece := by
  induction t generalizing piece with
  | nil =>
    rw [List.mem_singleton.mp h]
    exact List.not_mem_nil
  | cons c r ih =>
    rw [split] at h
    split_ifs at h with hc
    · rcases List.mem_cons.mp h with rfl | h
      · exact List.not_mem_nil
      · exact ih h
    · rcases mem_of_mem_modifyHead_cons h with h | ⟨first, hfirst, rfl⟩
      · exact ih h
      · exact List.not_mem_cons_of_ne_of_not_mem (Ne.symm hc) (ih hfirst)

theorem split_join {separator : Char} {pieces : List Text} (h : ∀ piece ∈ pieces, separator ∉ piece)
    (hne : pieces ≠ []) : (join [separator] pieces).split separator = pieces := by
  rw [split_eq_splitOnP, join, ← List.splitOn_eq_splitOnP, List.splitOn_intercalate separator h hne]

theorem join_split (separator : Char) (t : Text) : join [separator] (t.split separator) = t := by
  rw [split_eq_splitOnP, ← List.splitOn_eq_splitOnP, join, List.intercalate_splitOn]

/-- What is joined by a blank is blank if all pieces are. -/
theorem join_blank_iff {separator : Char} (hseparator : isBlank separator = true)
    (pieces : List Text) :
    (∀ c ∈ join [separator] pieces, isBlank c = true) ↔
      ∀ piece ∈ pieces, ∀ c ∈ piece, isBlank c = true := by
  induction pieces with
  | nil => simp [join]
  | cons piece others ih =>
    cases others with
    | nil => simp [join]
    | cons next others =>
      rw [List.forall_mem_cons, ← ih, join, List.intercalate_cons_cons, ← join]
      simp only [List.forall_mem_append, List.forall_mem_singleton, hseparator, and_true]

theorem strip_eq_rdropWhile (t : Text) : t.strip = (t.dropWhile isBlank).rdropWhile isBlank := rfl

theorem strip_eq_nil_iff {t : Text} : t.strip = [] ↔ ∀ c ∈ t, isBlank c = true := by
  rw [strip_eq_rdropWhile, List.rdropWhile_eq_nil_iff]
  constructor
  · intro h c hc
    rw [← List.takeWhile_append_dropWhile (p := isBlank) (l := t), List.mem_append] at hc
    rcases hc with hc | hc
    · exact List.mem_takeWhile_imp hc
    · exact h c hc
  · intro h c hc
    exact h c (List.dropWhile_subset _ hc)

theorem rdropWhile_append_of_blank (t : Text) {after : Text}
    (hafter : ∀ c ∈ after, isBlank c = true) :
    (t ++ after).rdropWhile isBlank = t.rdropWhile isBlank := by
  have hreverse : ∀ c ∈ after.reverse, isBlank c = true := fun c hc =>
    hafter c (List.mem_reverse.mp hc)
  rw [List.rdropWhile, List.reverse_append, List.dropWhile_append_of_pos hreverse, List.rdropWhile]

theorem strip_append_of_blank {before after : Text} (hbefore : ∀ c ∈ before, isBlank c = true)
    (hafter : ∀ c ∈ after, isBlank c = true) (t : Text) : strip (before ++ t ++ after) = strip t := by
  rw [strip_eq_rdropWhile, List.append_assoc, List.dropWhile_append_of_pos hbefore,
    List.dropWhile_append, strip_eq_rdropWhile]
  split_ifs with hempty
  · have hdropped := List.isEmpty_iff.mp hempty
    have hblank : after.dropWhile isBlank = [] := List.dropWhile_eq_nil_iff.mpr hafter
    rw [hdropped, hblank]
  · exact rdropWhile_append_of_blank _ hafter

theorem exists_eq_append_strip (t : Text) :
    ∃ before after : Text, (∀ c ∈ before, isBlank c = true) ∧ (∀ c ∈ after, isBlank c = true) ∧
      t = before ++ strip t ++ after := by
  refine ⟨t.takeWhile isBlank, (t.dropWhile isBlank).rtakeWhile isBlank, ?_, ?_, ?_⟩
  · exact fun c => List.mem_takeWhile_imp
  · exact fun c => List.mem_rtakeWhile_imp
  · rw [strip_eq_rdropWhile, List.append_assoc, List.rdropWhile_append_rtakeWhile,
      List.takeWhile_append_dropWhile]

theorem strip_strip (t : Text) : strip (strip t) = strip t := by
  obtain ⟨before, after, hbefore, hafter, ht⟩ := exists_eq_append_strip t
  have hstrip := strip_append_of_blank hbefore hafter (strip t)
  rw [← hstrip, ← ht]

end ConfigAudit.Text
