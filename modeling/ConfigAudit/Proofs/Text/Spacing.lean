import ConfigAudit.Proofs.Device.Line
import ConfigAudit.Proofs.Text.Words

/-! Texts with one space for every run of blanks. The words stay the same, and a pattern with a space
at its end is then found wherever it stood with some blank there. -/
namespace ConfigAudit.Text

/-- A text with a space in place of every run of blanks. -/
def collapse : Text → Text
  | [] => []
  | c :: r =>
    if isBlank c then if r.head?.any isBlank then collapse r else ' ' :: collapse r
    else c :: collapse r

/-- A text with its lines stripped and a space in place of every run of blanks inside them. -/
def singleSpaced (t : Text) : Text := join ['\n'] (t.lines.map collapse)

theorem isBlank_space : isBlank ' ' = true := by decide

@[simp] theorem collapse_nil : collapse [] = [] := rfl

theorem collapse_cons (c : Char) (r : Text) :
    collapse (c :: r) =
      if isBlank c then if r.head?.any isBlank then collapse r else ' ' :: collapse r
      else c :: collapse r := rfl

theorem collapse_cons_of_not_blank {c : Char} (hc : ¬isBlank c = true) (r : Text) :
    collapse (c :: r) = c :: collapse r := by
  rw [collapse_cons]
  exact if_neg hc

theorem collapse_cons_of_blank {c : Char} (hc : isBlank c = true) (r : Text) :
    collapse (c :: r) = ' ' :: collapse (r.dropWhile isBlank) := by
  induction r generalizing c with
  | nil => rw [collapse_cons, if_pos hc]; rfl
  | cons d r ih =>
    rw [collapse_cons, if_pos hc, List.head?_cons, Option.any_some]
    by_cases hd : isBlank d = true
    · rw [if_pos hd, ih hd, List.dropWhile_cons_of_pos hd]
    · rw [if_neg hd, List.dropWhile_cons_of_neg hd]

/-- A text begins with a space if it did with a blank, and else as it did. -/
theorem head?_collapse (t : Text) :
    t.collapse.head? = t.head?.map fun c => if isBlank c then ' ' else c := by
  cases t with
  | nil => rfl
  | cons c r =>
    by_cases hc : isBlank c = true
    · rw [collapse_cons_of_blank hc]
      simp [hc]
    · rw [collapse_cons_of_not_blank hc]
      simp [hc]

theorem getLast?_collapse (t : Text) :
    t.collapse.getLast? = t.getLast?.map fun c => if isBlank c then ' ' else c := by
  induction t with
  | nil => rfl
  | cons c r ih =>
    rw [collapse_cons]
    split_ifs with hblank hnext
    · cases r with
      | nil => cases hnext
      | cons d r => rw [ih, List.getLast?_cons_cons]
    · cases r with
      | nil => simp [hblank]
      | cons d r => rw [List.getLast?_cons, ih]; simp [List.getLast?_cons]
    · cases r with
      | nil => simp [hblank]
      | cons d r => rw [List.getLast?_cons, ih]; simp [List.getLast?_cons]

theorem mem_of_mem_collapse {c : Char} {t : Text} (h : c ∈ t.collapse) : c = ' ' ∨ c ∈ t := by
  induction t with
  | nil => cases h
  | cons d r ih =>
    rw [collapse_cons] at h
    split_ifs at h with hblank hnext
    · exact (ih h).imp_right (List.mem_cons_of_mem d)
    · rcases List.mem_cons.mp h with rfl | h
      · exact .inl rfl
      · exact (ih h).imp_right (List.mem_cons_of_mem d)
    · rcases List.mem_cons.mp h with rfl | h
      · exact .inr List.mem_cons_self
      · exact (ih h).imp_right (List.mem_cons_of_mem d)

theorem words_collapse (t : Text) : t.collapse.words = t.words := by
  induction t with
  | nil => rfl
  | cons c r ih =>
    rw [collapse_cons]
    split_ifs with hblank hnext
    · rw [ih, words_cons_of_blank hblank]
    · rw [words_cons_of_blank isBlank_space, ih, words_cons_of_blank hblank]
    · have hhead := head?_collapse r
      cases r with
      | nil => rfl
      | cons d r =>
        obtain ⟨rest, hrest⟩ := List.head?_eq_some_iff.mp hhead
        have hsame : isBlank (if isBlank d then ' ' else d) = isBlank d := by
          split_ifs with hd
          · rw [hd]; decide
          · rfl
        rw [hrest] at ih ⊢
        rw [words_cons_cons hblank, words_cons_cons hblank, hsame, ih]

/-- What is neither blank at its head nor at its end is not changed by stripping. -/
theorem strip_eq_self_iff {t : Text} :
    t.strip = t ↔ t.head?.any isBlank = false ∧ t.getLast?.any isBlank = false := by
  rw [strip_eq_rdropWhile]
  constructor
  · intro h
    have hdropped : t.dropWhile isBlank = t :=
      (List.dropWhile_suffix _).eq_of_length_le
        ((congrArg List.length h).ge.trans (List.rdropWhile_prefix _ _).length_le)
    have hkept : t.rdropWhile isBlank = t := by rwa [hdropped] at h
    constructor
    · cases t with
      | nil => rfl
      | cons c r => simpa using List.dropWhile_eq_self_iff.mp hdropped (Nat.succ_pos _)
    · rcases eq_or_ne t [] with rfl | hne
      · rfl
      · rw [List.getLast?_eq_some_getLast hne]
        simpa using List.rdropWhile_eq_self_iff.mp hkept hne
  · rintro ⟨hfirst, hlast⟩
    have hdropped : t.dropWhile isBlank = t := by
      cases t with
      | nil => rfl
      | cons c r => exact List.dropWhile_cons_of_neg (by simpa using hfirst)
    rw [hdropped, List.rdropWhile_eq_self_iff]
    intro hne
    rw [List.getLast?_eq_some_getLast hne] at hlast
    simpa using hlast

theorem strip_collapse {t : Text} (h : t.strip = t) : t.collapse.strip = t.collapse := by
  have hends {o : Option Char} (ho : o.any isBlank = false) :
      (o.map fun c => if isBlank c then ' ' else c).any isBlank = false := by
    cases o with
    | none => rfl
    | some c =>
      have hc : isBlank c = false := ho
      simp [hc]
  obtain ⟨hfirst, hlast⟩ := strip_eq_self_iff.mp h
  rw [strip_eq_self_iff, head?_collapse, getLast?_collapse]
  exact ⟨hends hfirst, hends hlast⟩

theorem lines_singleSpaced (t : Text) : t.singleSpaced.lines = t.lines.map collapse := by
  have hpieces : ∀ piece ∈ t.lines.map collapse, '\n' ∉ piece := by
    intro piece hpiece
    obtain ⟨line, hline, rfl⟩ := List.mem_map.mp hpiece
    obtain ⟨raw, hraw, rfl⟩ := List.mem_map.mp hline
    intro hmem
    rcases mem_of_mem_collapse hmem with hspace | hmem
    · exact absurd hspace (by decide)
    · obtain ⟨before, after, -, -, hstripped⟩ := exists_eq_append_strip raw
      refine notMem_of_mem_split hraw ?_
      rw [hstripped]
      exact List.mem_append_left after (List.mem_append_right before hmem)
  have hne : t.lines.map collapse ≠ [] := by
    rw [lines, Ne, List.map_eq_nil_iff, List.map_eq_nil_iff]
    exact split_ne_nil '\n' t
  rw [lines, singleSpaced, split_join hpieces hne]
  refine (List.map_congr_left fun line hline => ?_).trans (List.map_id _)
  obtain ⟨stripped, hstripped, rfl⟩ := List.mem_map.mp hline
  exact strip_collapse (strip_of_mem_lines hstripped)

section Patterns

variable {v t : Text}

theorem cons_prefix_collapse_iff {a : Char} (ha : ¬isBlank a = true) :
    (a :: v) <+: t.collapse ↔ ∃ r, t = a :: r ∧ v <+: collapse r := by
  cases t with
  | nil => simp
  | cons c r =>
    by_cases hc : isBlank c = true
    · have hspace : a ≠ ' ' := fun h => ha (h ▸ isBlank_space)
      have hne : c ≠ a := fun h => ha (h ▸ hc)
      rw [collapse_cons_of_blank hc, List.cons_prefix_cons]
      simp [hspace, hne]
    · rw [collapse_cons_of_not_blank hc, List.cons_prefix_cons]
      constructor
      · rintro ⟨rfl, hprefix⟩
        exact ⟨r, rfl, hprefix⟩
      · rintro ⟨rest, heq, hprefix⟩
        obtain ⟨rfl, rfl⟩ := List.cons.inj heq
        exact ⟨rfl, hprefix⟩

theorem space_cons_prefix_collapse_iff :
    (' ' :: v) <+: t.collapse ↔
      ∃ c r, isBlank c = true ∧ t = c :: r ∧ v <+: collapse (r.dropWhile isBlank) := by
  cases t with
  | nil => simp
  | cons c r =>
    by_cases hc : isBlank c = true
    · rw [collapse_cons_of_blank hc, List.cons_prefix_cons]
      constructor
      · rintro ⟨-, hprefix⟩
        exact ⟨c, r, hc, rfl, hprefix⟩
      · rintro ⟨d, rest, -, heq, hprefix⟩
        obtain ⟨rfl, rfl⟩ := List.cons.inj heq
        exact ⟨rfl, hprefix⟩
    · have hspace : ' ' ≠ c := fun h => hc (h ▸ isBlank_space)
      rw [collapse_cons_of_not_blank hc, List.cons_prefix_cons]
      constructor
      · rintro ⟨heq, -⟩
        exact absurd heq hspace
      · rintro ⟨d, rest, hd, heq, -⟩
        obtain ⟨rfl, rfl⟩ := List.cons.inj heq
        exact absurd hd hc

variable {w : Text} (hw : ∀ c ∈ w, ¬isBlank c = true)
include hw

/-- Up to the first run of blanks a text stays as it is. -/
theorem append_prefix_collapse_iff :
    (w ++ v) <+: t.collapse ↔ ∃ r, t = w ++ r ∧ v <+: collapse r := by
  induction w generalizing t with
  | nil => simp
  | cons a w ih =>
    obtain ⟨ha, hothers⟩ := List.forall_mem_cons.mp hw
    rw [List.cons_append, cons_prefix_collapse_iff ha]
    simp only [ih hothers, List.cons_append]
    constructor
    · rintro ⟨rest, rfl, r, rfl, hprefix⟩
      exact ⟨r, rfl, hprefix⟩
    · rintro ⟨r, rfl, hprefix⟩
      exact ⟨w ++ r, rfl, r, rfl, hprefix⟩

/-- A word with a space behind it stands at the head where it did with a blank behind it. -/
theorem prefix_collapse_iff :
    (w ++ [' ']) <+: t.collapse ↔ ∃ c, isBlank c = true ∧ (w ++ [c]) <+: t := by
  rw [append_prefix_collapse_iff hw]
  simp only [space_cons_prefix_collapse_iff, List.nil_prefix, and_true]
  constructor
  · rintro ⟨_, rfl, c, r, hc, rfl⟩
    exact ⟨c, hc, r, by rw [List.append_assoc, List.singleton_append]⟩
  · rintro ⟨c, hc, r, rfl⟩
    exact ⟨c :: r, by rw [List.append_assoc, List.singleton_append], c, r, hc, rfl⟩

theorem infix_collapse_iff (hne : w ≠ []) :
    (w ++ [' ']) <:+: t.collapse ↔ ∃ c, isBlank c = true ∧ (w ++ [c]) <:+: t := by
  -- A pattern that begins with a word does not begin with a blank.
  have hhead {c d : Char} {r : Text} (hc : isBlank c = true) : ¬(w ++ [d]) <+: c :: r := by
    cases w with
    | nil => exact absurd rfl hne
    | cons a w =>
      rw [List.cons_append, List.cons_prefix_cons]
      rintro ⟨rfl, -⟩
      exact hw a List.mem_cons_self hc
  induction t with
  | nil => simp
  | cons c r ih =>
    have hprefix := prefix_collapse_iff hw (t := c :: r)
    rw [collapse_cons] at hprefix ⊢
    split_ifs at hprefix ⊢ with hblank hnext
    · simp only [ih, List.infix_cons_iff, hhead hblank, false_or]
    · simp only [List.infix_cons_iff, hhead hblank, hhead isBlank_space, false_or, ih]
    · simp only [List.infix_cons_iff, hprefix, ih, ← exists_or, ← and_or_left]

end Patterns

end ConfigAudit.Text
