import ConfigAudit.Proofs.Check.Reported
import ConfigAudit.Proofs.Device.Line
import ConfigAudit.Proofs.Text.Search

/-! Absent hardening directives. The check joins the lines again and searches the whole for the text
of a directive, so any line that has this text in it counts as the directive, whatever it says. -/
namespace ConfigAudit

namespace Hardening

theorem pattern_ne_nil (d : Hardening) : d.pattern ≠ [] := by
  cases d <;> decide

theorem newline_notMem_pattern (d : Hardening) : '\n' ∉ d.pattern := by
  cases d <;> decide

/-- A line mentions a directive if it has the text of it somewhere. -/
def MentionedOn (d : Hardening) (line : Text) : Prop := d.pattern <:+: line

instance (d : Hardening) (line : Text) : Decidable (d.MentionedOn line) :=
  inferInstanceAs (Decidable (_ <:+: _))

theorem not_mentionedOn_nil (d : Hardening) : ¬d.MentionedOn [] := fun h =>
  d.pattern_ne_nil (List.infix_nil.mp h)

/-- Wherever the directive is mentioned, it is negated or stands in a comment. -/
def SwitchedOff (d : Hardening) (t : Text) : Prop :=
  ∀ line ∈ t.lines, d.MentionedOn line →
    line.startsWith "no " = true ∨ line.startsWith "!" = true

end Hardening

namespace Check

/-- The absence of a directive is reported. -/
def AbsenceReported (p : Policy) (t : Text) (d : Hardening) : Prop :=
  Reports "best_practices" p t (Finding.absent d).issue

theorem absent_issue_injective {d e : Hardening}
    (h : (Finding.absent d).issue = (Finding.absent e).issue) : d = e := by
  have htitle := congrArg Issue.title h
  cases d <;> cases e <;> first | rfl | exact absurd htitle (by decide)

/-- What the check finds depends on what single lines mention, though it searches the whole. -/
theorem bestPractices_eq (p : Policy) (lines : List Line) :
    bestPractices p lines =
      if ∀ l ∈ lines, l.text.strip = [] then []
      else ((requiredDirectives p).filter fun d => ∀ l ∈ lines, ¬d.MentionedOn l.text).map .absent := by
  have hblank : (Text.join ['\n'] (lines.map (·.text))).strip = [] ↔
      ∀ l ∈ lines, l.text.strip = [] := by
    simp only [Text.strip_eq_nil_iff, Text.join_blank_iff (by decide : Text.isBlank '\n' = true),
      List.forall_mem_map]
  have hincludes (d : Hardening) :
      (!(Text.join ['\n'] (lines.map (·.text))).includes d.pattern) =
        decide (∀ l ∈ lines, ¬d.MentionedOn l.text) := by
    rw [Bool.eq_iff_iff, Bool.not_eq_true', ← Bool.not_eq_true, Text.includes_iff_infix,
      Text.infix_join_iff d.newline_notMem_pattern d.pattern_ne_nil, decide_eq_true_iff]
    simp only [List.mem_map, exists_exists_and_eq_and, not_exists, not_and, Hardening.MentionedOn]
  simp only [bestPractices, hblank, hincludes]

theorem mem_bestPractices_iff {p : Policy} {lines : List Line} {f : Finding} :
    f ∈ bestPractices p lines ↔
      (∃ l ∈ lines, l.text.strip ≠ []) ∧
        ∃ d ∈ requiredDirectives p, (∀ l ∈ lines, ¬d.MentionedOn l.text) ∧ f = .absent d := by
  rw [bestPractices_eq]
  split_ifs with hblank
  · have hnone : ¬∃ l ∈ lines, l.text.strip ≠ [] := fun ⟨l, hl, htext⟩ => htext (hblank l hl)
    simp only [List.not_mem_nil, hnone, false_and]
  · have hsome : ∃ l ∈ lines, l.text.strip ≠ [] := by
      push Not at hblank
      exact hblank
    simp only [hsome, true_and, List.mem_map, List.mem_filter, decide_eq_true_eq, and_assoc,
      eq_comm (a := f)]

/-- The absence of a required directive is reported exactly if no line mentions it. -/
theorem absenceReported_iff (p : Policy) (t : Text) (d : Hardening) :
    AbsenceReported p t d ↔
      t.strip ≠ [] ∧ d ∈ requiredDirectives p ∧ ∀ line ∈ t.lines, ¬d.MentionedOn line := by
  have hblank : (∃ l ∈ Line.ofText t, l.text.strip ≠ []) ↔ t.strip ≠ [] := by
    rw [Ne, Text.strip_eq_nil_iff_lines, ← Line.forall_mem_ofText_iff]
    push Not
    refine exists_congr fun l => and_congr_right fun hl => ?_
    rw [Text.strip_of_mem_lines (Line.text_mem_lines hl)]
  rw [AbsenceReported, reports_bestPractices_iff]
  simp only [mem_bestPractices_iff, hblank]
  have hnone (e : Hardening) := Line.forall_mem_ofText_iff (t := t) (¬e.MentionedOn ·)
  constructor
  · rintro ⟨_, ⟨hwhole, e, he, hlines, rfl⟩, hissue⟩
    obtain rfl := absent_issue_injective hissue
    exact ⟨hwhole, he, (hnone e).mp hlines⟩
  · rintro ⟨hwhole, hd, hlines⟩
    exact ⟨_, ⟨hwhole, d, hd, (hnone d).mpr hlines, rfl⟩, rfl⟩

/-- A device without password encryption, as it says itself. -/
def unencrypted : Text := "hostname r1\nno service password-encryption"

/-- A negated directive counts as the directive. -/
theorem absence_unreported_negated :
    unencrypted.strip ≠ [] ∧ ({} : Policy).extendedBestPractices = true ∧
      Hardening.passwordEncryption.SwitchedOff unencrypted ∧
      ¬AbsenceReported {} unencrypted .passwordEncryption := by
  have hlines : unencrypted.lines =
    (["hostname r1", "no service password-encryption"] : List Text) := by decide
  have hfindings : bestPractices {} (Line.ofText unencrypted) =
    [.absent .ssh, .absent .banner, .absent .logging] := by decide
  refine ⟨by decide, rfl, ?_, ?_⟩
  · intro line hline hmention
    rw [hlines, List.mem_cons, List.mem_singleton] at hline
    rcases hline with rfl | rfl
    · exact absurd hmention (by decide)
    · exact .inl rfl
  · rw [AbsenceReported, reports_bestPractices_iff, hfindings]
    rintro ⟨f, hf, hissue⟩
    have htitle := congrArg Issue.title hissue
    simp only [List.mem_cons, List.not_mem_nil, or_false] at hf
    rcases hf with rfl | rfl | rfl <;> exact absurd htitle (by decide)

end Check
end ConfigAudit
