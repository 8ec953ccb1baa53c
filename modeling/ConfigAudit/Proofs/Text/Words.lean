import ConfigAudit.Proofs.Text.Search

/-! The words of a text and the blanks around them. A text without words is blank, and stripping
takes no word away. -/
namespace ConfigAudit.Text

theorem words_cons_of_blank {c : Char} (hc : isBlank c = true) (r : Text) :
    words (c :: r) = words r := by
  rw [words.eq_def]
  exact if_pos hc

theorem words_cons_cons {c : Char} (hc : ¬isBlank c = true) (d : Char) (r : Text) :
    words (c :: d :: r) =
      if isBlank d then [c] :: words (d :: r) else (words (d :: r)).modifyHead (c :: ·) := by
  rw [words.eq_def]
  exact if_neg hc

theorem words_eq_nil_iff {t : Text} : t.words = [] ↔ ∀ c ∈ t, isBlank c = true := by
  fun_induction words t with
  | case1 => simp
  | case2 c r hblank ih => simp [ih, hblank]
  | case3 c hword => simp [hword]
  | case4 c hword d r hblank ih => simp [hword]
  | case5 c hword d r hblank ih =>
    rw [List.modifyHead_eq_nil_iff, ih]
    simp [hword, hblank]

theorem words_append_left_of_blank {before : Text} (hbefore : ∀ c ∈ before, isBlank c = true)
    (t : Text) : words (before ++ t) = words t := by
  induction before with
  | nil => rfl
  | cons c r ih =>
    obtain ⟨hc, hr⟩ := List.forall_mem_cons.mp hbefore
    rw [List.cons_append, words_cons_of_blank hc, ih hr]

theorem words_append_right_of_blank {after : Text} (hafter : ∀ c ∈ after, isBlank c = true)
    (t : Text) : words (t ++ after) = words t := by
  fun_induction words t with
  | case1 => exact words_eq_nil_iff.mpr hafter
  | case2 c r hblank ih => rw [List.cons_append, words_cons_of_blank hblank, ih]
  | case3 c hword =>
    -- A blank ends the word, and there is no other word behind it.
    cases after with
    | nil => simp [words, hword]
    | cons d r =>
      rw [List.singleton_append, words_cons_cons hword, if_pos (hafter d List.mem_cons_self),
        words_eq_nil_iff.mpr hafter]
  | case4 c hword d r hblank ih =>
    rw [List.cons_append, List.cons_append, words_cons_cons hword, if_pos hblank,
      ← List.cons_append, ih]
  | case5 c hword d r hblank ih =>
    rw [List.cons_append, List.cons_append, words_cons_cons hword, if_neg hblank,
      ← List.cons_append, ih]

theorem words_strip (t : Text) : t.strip.words = t.words := by
  obtain ⟨before, after, hbefore, hafter, ht⟩ := exists_eq_append_strip t
  have hwords := congrArg words ht
  rwa [words_append_right_of_blank hafter, words_append_left_of_blank hbefore, eq_comm] at hwords

/-- A text that is stripped and not empty has a word. -/
theorem words_strip_ne_nil {t : Text} (h : t.strip ≠ []) : t.strip.words ≠ [] := by
  rw [words_strip, Ne, words_eq_nil_iff, ← strip_eq_nil_iff]
  exact h

end ConfigAudit.Text
