import ConfigAudit.Proofs.Check.Hardening

/-! What one configuration below another lacks. A directive is absent from the whole exactly if it is
absent from both parts, since no mention of it reaches over the end of a line, and the blanks around
a line make no difference. -/
namespace ConfigAudit

namespace Text

/-- Two configurations, the second on the lines behind the first. -/
def stacked (a b : Text) : Text := a ++ "\n" ++ b

theorem lines_stacked (a b : Text) : (a.stacked b).lines = a.lines ++ b.lines := by
  have hassoc : a.stacked b = a ++ '\n' :: b := List.append_assoc a "\n" b
  rw [hassoc, lines_append_cons]

theorem strip_stacked_eq_nil_iff {a b : Text} :
    (a.stacked b).strip = [] ↔ a.strip = [] ∧ b.strip = [] := by
  simp only [strip_eq_nil_iff_lines, lines_stacked, List.forall_mem_append]

end Text

namespace Hardening

theorem mentionedOn_strip_iff (d : Hardening) (line : Text) :
    d.MentionedOn line.strip ↔ d.MentionedOn line := by
  have hfirst : d.pattern.head?.any Text.isBlank = false := by cases d <;> rfl
  have hlast : d.pattern.getLast?.any Text.isBlank = false := by cases d <;> rfl
  exact Text.infix_strip_iff hfirst hlast line

/-- The check searches the stripped lines all at once, and yet each line as it stands for itself. -/
theorem includes_join_iff (d : Hardening) (t : Text) :
    (Text.join ['\n'] ((Line.ofText t).map (·.text))).includes d.pattern = true ↔
      ∃ line ∈ t.split '\n', d.MentionedOn line := by
  rw [Line.ofText_eq, Line.numberFrom_map_text, Text.includes_iff_infix,
    Text.infix_join_iff d.newline_notMem_pattern d.pattern_ne_nil, Text.lines]
  simp only [List.mem_map, exists_exists_and_eq_and]
  exact exists_congr fun line => and_congr_right fun _ => d.mentionedOn_strip_iff line

/-- No line of a text mentions the directive. -/
def AbsentFrom (d : Hardening) (t : Text) : Prop := ∀ line ∈ t.lines, ¬d.MentionedOn line

instance (d : Hardening) (t : Text) : Decidable (d.AbsentFrom t) :=
  inferInstanceAs (Decidable (∀ line ∈ t.lines, _))

/-- The blanks around a line make no difference to what it mentions. -/
theorem absentFrom_iff_split {d : Hardening} {t : Text} :
    d.AbsentFrom t ↔ ∀ line ∈ t.split '\n', ¬d.pattern <:+: line := by
  simp only [AbsentFrom, Text.lines, List.forall_mem_map]
  exact forall₂_congr fun line _ => not_congr (d.mentionedOn_strip_iff line)

theorem absentFrom_stacked_iff {d : Hardening} {a b : Text} :
    d.AbsentFrom (a.stacked b) ↔ d.AbsentFrom a ∧ d.AbsentFrom b := by
  simp only [AbsentFrom, Text.lines_stacked, List.forall_mem_append]

theorem absentFrom_of_blank {t : Text} (h : t.strip = []) (d : Hardening) : d.AbsentFrom t := by
  intro line hline
  rw [Text.strip_eq_nil_iff_lines.mp h line hline]
  exact d.not_mentionedOn_nil

end Hardening

namespace Check

/-- The issues on a text that is not blank, whatever it is. -/
def absences (p : Policy) (t : Text) : List Issue :=
  ((requiredDirectives p).filter (·.AbsentFrom t)).map fun d => (Finding.absent d).issue

theorem issues?_bestPractices (p : Policy) (t : Text) :
    issues? "best_practices" p t = some (if t.strip = [] then [] else absences p t) := by
  have hissues : issues? "best_practices" p t =
      some ((bestPractices p (Line.ofText t)).map Finding.issue) := rfl
  have hblank : (∀ l ∈ Line.ofText t, l.text.strip = []) ↔ t.strip = [] := by
    rw [Line.forall_mem_ofText_iff (·.strip = []), Text.strip_eq_nil_iff_lines]
    exact forall₂_congr fun line hline => by rw [Text.strip_of_mem_lines hline]
  have habsent (d : Hardening) : (∀ l ∈ Line.ofText t, ¬d.MentionedOn l.text) ↔ d.AbsentFrom t :=
    Line.forall_mem_ofText_iff (¬d.MentionedOn ·)
  rw [hissues, bestPractices_eq]
  simp only [hblank, habsent, apply_ite (List.map Finding.issue), List.map_nil, List.map_map]
  rfl

theorem mem_absences_iff {p : Policy} {t : Text} {d : Hardening} :
    (Finding.absent d).issue ∈ absences p t ↔ d ∈ requiredDirectives p ∧ d.AbsentFrom t := by
  simp only [absences, List.mem_map, List.mem_filter, decide_eq_true_eq]
  constructor
  · rintro ⟨e, he, hissue⟩
    rwa [← absent_issue_injective hissue]
  · exact fun hd => ⟨d, hd, rfl⟩

theorem mem_requiredDirectives_iff {p : Policy} {d : Hardening} :
    d ∈ requiredDirectives p ↔ d = .ssh ∨ p.extendedBestPractices = true := by
  unfold requiredDirectives
  cases p.extendedBestPractices <;> cases d <;> decide

/-- A directive is reported on a text that is not blank if none of its lines mentions it. -/
theorem exists_absent_mem_iff (p : Policy) (t : Text) (d : Hardening) :
    (∃ issues, issues? "best_practices" p t = some issues ∧ (Finding.absent d).issue ∈ issues) ↔
      t.strip ≠ [] ∧ (d = .ssh ∨ p.extendedBestPractices = true) ∧
        ∀ line ∈ t.split '\n', ¬d.pattern <:+: line := by
  simp only [issues?_bestPractices, Option.some.injEq, exists_eq_left']
  split_ifs with hblank
  · simp [hblank]
  · simp only [mem_absences_iff, mem_requiredDirectives_iff, Hardening.absentFrom_iff_split,
      ne_eq, hblank, not_false_eq_true, true_and]

theorem absences_stacked (p : Policy) (a b : Text) :
    absences p (a.stacked b) = (absences p a).filter (· ∈ absences p b) := by
  rw [absences, absences.eq_def p a, List.filter_map, List.filter_filter]
  refine congrArg _ (List.filter_congr fun d hd => ?_)
  simp only [Function.comp_apply, mem_absences_iff, hd, true_and, Hardening.absentFrom_stacked_iff,
    Bool.decide_and, Bool.and_comm]

theorem absences_stacked_of_blank_left {a : Text} (ha : a.strip = []) (p : Policy) (b : Text) :
    absences p (a.stacked b) = absences p b := by
  simp only [absences, Hardening.absentFrom_stacked_iff, Hardening.absentFrom_of_blank ha, true_and]

theorem absences_stacked_of_blank_right {b : Text} (hb : b.strip = []) (p : Policy) (a : Text) :
    absences p (a.stacked b) = absences p a := by
  simp only [absences, Hardening.absentFrom_stacked_iff, Hardening.absentFrom_of_blank hb, and_true]

/-- Below each other, two configurations lack what each of them lacks. A blank one adds nothing. The
search of the whole finds a directive exactly if it stands on a single line, and what is reported
are the directives of the policy that stand on none. -/
theorem bestPractices_stacked (p : Policy) (a b : Text) :
    (∃ onFirst onSecond onBoth,
      issues? "best_practices" p a = some onFirst ∧ issues? "best_practices" p b = some onSecond ∧
      issues? "best_practices" p (a.stacked b) = some onBoth ∧
      onBoth =
        if a.strip = [] then if b.strip = [] then [] else onSecond
        else if b.strip = [] then onFirst else onFirst.filter (· ∈ onSecond)) ∧
    ∀ (t : Text) (d : Hardening),
      ((Text.join ['\n'] ((Line.ofText t).map (·.text))).includes d.pattern = true ↔
        ∃ line ∈ t.split '\n', d.pattern <:+: line) ∧
      ((∃ issues, issues? "best_practices" p t = some issues ∧
          (Finding.absent d).issue ∈ issues) ↔
        t.strip ≠ [] ∧ (d = .ssh ∨ p.extendedBestPractices = true) ∧
          ∀ line ∈ t.split '\n', ¬d.pattern <:+: line) := by
  refine ⟨⟨_, _, _, issues?_bestPractices p a, issues?_bestPractices p b,
    issues?_bestPractices p (a.stacked b), ?_⟩,
    fun t d => ⟨d.includes_join_iff t, exists_absent_mem_iff p t d⟩⟩
  simp only [Text.strip_stacked_eq_nil_iff]
  by_cases ha : a.strip = []
  · by_cases hb : b.strip = []
    · simp only [ha, hb, and_self, if_true]
    · simp only [ha, hb, and_false, if_true, if_false, absences_stacked_of_blank_left ha]
  · by_cases hb : b.strip = []
    · simp only [ha, hb, false_and, if_true, if_false, absences_stacked_of_blank_right hb]
    · simp only [ha, hb, false_and, if_false, absences_stacked]

end Check
end ConfigAudit
