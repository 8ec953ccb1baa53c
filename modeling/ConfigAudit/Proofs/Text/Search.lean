import ConfigAudit.Proofs.Text.Split
import Mathlib.Data.List.Infix

/-! Searching a text, and its words. A text includes a pattern if the pattern stands somewhere in
it, and what follows the first occurrence is what a directive says behind its keywords. Texts that
are joined by a separator include a pattern without it just where one of them does. -/
namespace ConfigAudit.Text

theorem eq_append_of_afterFirst {pattern t rest : Text} (h : afterFirst pattern t = some rest) :
    ∃ before, t = before ++ pattern ++ rest := by
  induction t with
  | nil =>
    rw [afterFirst] at h
    split_ifs at h with hpattern
    obtain rfl := Option.some.inj h
    exact ⟨[], by rw [hpattern]; rfl⟩
  | cons c r ih =>
    rw [afterFirst] at h
    split_ifs at h with hstarts
    · obtain ⟨tail, htail⟩ := List.isPrefixOf_iff_prefix.mp hstarts
      obtain rfl := Option.some.inj h
      exact ⟨[], by rw [← htail, List.drop_left, List.nil_append]⟩
    · obtain ⟨before, hbefore⟩ := ih h
      exact ⟨c :: before, congrArg (c :: ·) hbefore⟩

/-- Inclusion is to be a contiguous part. -/
theorem includes_iff_infix {t pattern : Text} : t.includes pattern = true ↔ pattern <:+: t := by
  induction t with
  | nil =>
    rw [includes, afterFirst, List.infix_nil]
    split_ifs with hpattern <;> simp [hpattern]
  | cons c r ih =>
    rw [includes] at ih
    rw [includes, afterFirst, List.infix_cons_iff, ← ih, ← List.isPrefixOf_iff_prefix]
    split_ifs with hstarts <;> simp [hstarts]

theorem eq_nil_of_prefix_cons {c : Char} {t r : Text} (h : t <+: c :: r) (hc : c ∉ t) : t = [] := by
  rcases List.prefix_cons_iff.mp h with rfl | ⟨rest, rfl, -⟩
  · rfl
  · exact absurd List.mem_cons_self hc

/-- What lacks the separator does not reach across it. -/
theorem infix_append_separator_iff {separator : Char} {pattern : Text}
    (hpattern : separator ∉ pattern) {a b : Text} :
    pattern <:+: a ++ separator :: b ↔ pattern <:+: a ∨ pattern <:+: b := by
  rw [List.infix_append_iff]
  constructor
  · rintro (ha | hb | ⟨left, right, rfl, hleft, hright⟩)
    · exact .inl ha
    · rcases List.infix_cons_iff.mp hb with hprefix | hb
      · rw [eq_nil_of_prefix_cons hprefix hpattern]
        exact .inl List.nil_infix
      · exact .inr hb
    · have hlacks : separator ∉ right := fun hmem => hpattern (List.mem_append_right left hmem)
      rw [eq_nil_of_prefix_cons hright hlacks, List.append_nil]
      exact .inl hleft.isInfix
  · rintro (ha | hb)
    · exact .inl ha
    · exact .inr (.inl (List.infix_cons hb))

/-- A pattern that lacks the separator stands in one of the texts that are joined. -/
theorem infix_join_iff {separator : Char} {pattern : Text} (hpattern : separator ∉ pattern)
    (hne : pattern ≠ []) (pieces : List Text) :
    pattern <:+: join [separator] pieces ↔ ∃ piece ∈ pieces, pattern <:+: piece := by
  induction pieces with
  | nil => simp [join, hne]
  | cons piece others ih =>
    cases others with
    | nil => simp [join]
    | cons next others =>
      rw [join, List.intercalate_cons_cons, List.append_assoc, List.singleton_append,
        infix_append_separator_iff hpattern, ← join, ih]
      simp only [List.mem_cons, exists_eq_or_imp]

/-- A pattern that begins with no blank does not begin in the blanks in front of a text. -/
theorem infix_dropWhile_iff {pattern : Text} (hfirst : pattern.head?.any isBlank = false)
    (t : Text) : pattern <:+: t.dropWhile isBlank ↔ pattern <:+: t := by
  induction t with
  | nil => rfl
  | cons c r ih =>
    by_cases hc : isBlank c = true
    · rw [List.dropWhile_cons_of_pos hc, ih, List.infix_cons_iff]
      refine ⟨.inr, fun h => h.elim (fun hprefix => ?_) id⟩
      rcases List.prefix_cons_iff.mp hprefix with rfl | ⟨rest, rfl, -⟩
      · exact List.nil_infix
      · exact absurd hc (Bool.eq_false_iff.mp hfirst)
    · rw [List.dropWhile_cons_of_neg hc]

/-- Stripping a text neither makes nor breaks a pattern without blanks at its ends. -/
theorem infix_strip_iff {pattern : Text} (hfirst : pattern.head?.any isBlank = false)
    (hlast : pattern.getLast?.any isBlank = false) (t : Text) :
    pattern <:+: t.strip ↔ pattern <:+: t := by
  have hreverse : pattern.reverse.head?.any isBlank = false := by rwa [List.head?_reverse]
  rw [strip, stripRight, ← List.reverse_infix, List.reverse_reverse, infix_dropWhile_iff hreverse,
    List.reverse_infix, infix_dropWhile_iff hfirst]

theorem ne_nil_of_mem_words {t w : Text} (h : w ∈ t.words) : w ≠ [] := by
  fun_induction words t generalizing w with
  | case1 => cases h
  | case2 c r hblank ih => exact ih h
  | case3 c hword =>
    rw [List.mem_singleton.mp h]
    exact List.cons_ne_nil c []
  | case4 c hword d r hblank ih =>
    rcases List.mem_cons.mp h with rfl | h
    · exact List.cons_ne_nil c []
    · exact ih h
  | case5 c hword d r hblank ih =>
    rcases mem_of_mem_modifyHead_cons h with h | ⟨first, -, rfl⟩
    · exact ih h
    · exact List.cons_ne_nil c first

end ConfigAudit.Text
