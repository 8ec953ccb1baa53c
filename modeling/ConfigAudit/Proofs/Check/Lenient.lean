import ConfigAudit.Check.Basic
import ConfigAudit.Password.Analysis
import ConfigAudit.Proofs.Device.Line
import Mathlib.Data.List.Flatten

/-! The lenient switches of a policy: passing over comment lines, matching weak passwords in case
too, and asking for fewer directives. Each of them takes findings away and leaves the others as they
are, in their order. Passing over the comment lines is the same as emptying them. -/
namespace ConfigAudit

/-- The second policy differs in lenient switches alone, which it may have turned. -/
structure Policy.RelaxedTo (p q : Policy) : Prop where
  skipCommentLines : p.skipCommentLines = true → q.skipCommentLines = true
  caseSensitive : p.weakPasswordCaseSensitive = true → q.weakPasswordCaseSensitive = true
  extendedBestPractices : q.extendedBestPractices = true → p.extendedBestPractices = true
  others : q = { p with
    skipCommentLines := q.skipCommentLines
    weakPasswordCaseSensitive := q.weakPasswordCaseSensitive
    extendedBestPractices := q.extendedBestPractices }

namespace Text

/-- Nothing in place of a line that is a comment behind its blanks. -/
def uncommented (line : Text) : Text := if line.strip.startsWith "!" then [] else line

/-- A text with its comment lines emptied. -/
def withoutComments (t : Text) : Text := join ['\n'] ((t.split '\n').map uncommented)

theorem strip_uncommented (line : Text) :
    line.uncommented.strip = if line.strip.startsWith "!" then [] else line.strip := by
  rw [uncommented, apply_ite strip]
  rfl

theorem lines_withoutComments (t : Text) :
    t.withoutComments.lines = ((t.split '\n').map uncommented).map strip := by
  have hpieces : ∀ piece ∈ (t.split '\n').map uncommented, '\n' ∉ piece := by
    intro piece hpiece
    obtain ⟨line, hline, rfl⟩ := List.mem_map.mp hpiece
    unfold uncommented
    split_ifs
    · exact List.not_mem_nil
    · exact notMem_of_mem_split hline
  have hne : (t.split '\n').map uncommented ≠ [] := mt List.map_eq_nil_iff.mp (split_ne_nil '\n' t)
  rw [lines, withoutComments, split_join hpieces hne]

end Text

/-- A match in case is a match. -/
theorem Policy.isWeakPassword_of_caseSensitive {p : Policy} {c : Text}
    (h : p.isWeakPassword c true = true) : p.isWeakPassword c false = true := by
  simp only [isWeakPassword, if_true, List.contains_iff_mem] at h
  simp only [isWeakPassword, Bool.false_eq_true, if_false, List.any_eq_true, decide_eq_true_eq]
  exact ⟨c, h, rfl⟩

namespace Policy.RelaxedTo

variable {p q : Policy} (h : p.RelaxedTo q)
include h

theorem keywordCredentials_eq : q.keywordCredentials = p.keywordCredentials := by
  rw [h.others]

theorem minPasswordLength_eq : q.minPasswordLength = p.minPasswordLength := by
  rw [h.others]

theorem weightsFor_eq : q.weightsFor = p.weightsFor := by
  rw [h.others]
  rfl

/-- The dictionary is looked up in either way with the same entries. -/
theorem isWeakPassword_eq : q.isWeakPassword = p.isWeakPassword := by
  rw [h.others]
  rfl

/-- The rating of a password reads no lenient switch. -/
theorem analyze_eq : Password.analyze q = Password.analyze p := by
  rw [h.others]
  rfl

theorem isWeakPassword {c : Text} (hc : q.isWeakPassword c q.weakPasswordCaseSensitive = true) :
    p.isWeakPassword c p.weakPasswordCaseSensitive = true := by
  rw [h.isWeakPassword_eq] at hc
  cases hq : q.weakPasswordCaseSensitive with
  | false =>
    have hp : p.weakPasswordCaseSensitive = false := by
      rw [← Bool.not_eq_true] at hq ⊢
      exact mt h.caseSensitive hq
    rwa [hp, ← hq]
  | true =>
    rw [hq] at hc
    cases p.weakPasswordCaseSensitive with
    | false => exact Policy.isWeakPassword_of_caseSensitive hc
    | true => exact hc

end Policy.RelaxedTo

namespace Check

theorem ite_sublist_ite {c d : Prop} [Decidable c] [Decidable d] (h : c → d)
    {l m : List Finding} (hl : l.Sublist m) :
    (if c then l else []).Sublist (if d then m else []) := by
  by_cases hc : c
  · rwa [if_pos hc, if_pos (h hc)]
  · rw [if_neg hc]
    exact List.nil_sublist _

section Relaxed

variable {p q : Policy} (h : p.RelaxedTo q)
include h

theorem judged_relaxed (lines : List Line) : (judged q lines).Sublist (judged p lines) := by
  refine List.monotone_filter_right lines fun l hl => ?_
  simp only [Bool.not_eq_true', Bool.and_eq_false_iff] at hl ⊢
  refine hl.imp_left fun hq => ?_
  rw [← Bool.not_eq_true] at hq ⊢
  exact mt h.skipCommentLines hq

/-- Fewer lines are judged, and each of them more leniently. -/
theorem flatMap_judged_relaxed (onLine : Policy → Line → List Finding)
    (hline : ∀ l, (onLine q l).Sublist (onLine p l)) (lines : List Line) :
    ((judged q lines).flatMap (onLine q)).Sublist ((judged p lines).flatMap (onLine p)) :=
  (List.Sublist.flatMap_right _ fun l _ => hline l).trans
    ((judged_relaxed h lines).flatMap (onLine p))

theorem credentialFindings_relaxed (l : Line) :
    (credentialFindings q l).Sublist (credentialFindings p l) := by
  unfold credentialFindings
  rw [h.keywordCredentials_eq, h.minPasswordLength_eq]
  exact ite_sublist_ite id
    ((ite_sublist_ite h.isWeakPassword (List.Sublist.refl _)).append (List.Sublist.refl _))

theorem weakPasswords_relaxed (lines : List Line) :
    (weakPasswords q lines).Sublist (weakPasswords p lines) :=
  flatMap_judged_relaxed h (fun p l => credentialFindings p l ++ enablePasswordFindings l)
    (fun l => (credentialFindings_relaxed h l).append (List.Sublist.refl _)) lines

theorem insecureServices_relaxed (lines : List Line) :
    (insecureServices q lines).Sublist (insecureServices p lines) :=
  (judged_relaxed h lines).flatMap _

theorem requiredDirectives_relaxed : (requiredDirectives q).Sublist (requiredDirectives p) := by
  unfold requiredDirectives
  split_ifs with hq hp hp
  · exact List.Sublist.refl _
  · exact absurd (h.extendedBestPractices hq) hp
  · exact List.singleton_sublist.mpr List.mem_cons_self
  · exact List.Sublist.refl _

theorem bestPractices_relaxed (lines : List Line) :
    (bestPractices q lines).Sublist (bestPractices p lines) := by
  unfold bestPractices
  dsimp only
  split_ifs
  · exact List.Sublist.refl _
  · exact ((requiredDirectives_relaxed h).filter _).map _

theorem run_relaxed {c : Check} (hc : c ∈ standard) (d : Document) :
    ((c.run q d).getD []).Sublist ((c.run p d).getD []) := by
  simp only [standard, List.mem_cons, List.not_mem_nil, or_false] at hc
  rcases hc with rfl | rfl | rfl | rfl | rfl
  · exact (weakPasswords_relaxed h d.lines).map _
  · exact (insecureServices_relaxed h d.lines).map _
  · exact List.Sublist.refl _
  · exact List.Sublist.refl _
  · exact (bestPractices_relaxed h d.lines).map _

theorem runAll_relaxed {checks : List Check} (hchecks : ∀ c ∈ checks, c ∈ standard)
    (d : Document) : (runAll checks q d).Sublist (runAll checks p d) :=
  List.Sublist.flatMap_right _ fun c hc => run_relaxed h (hchecks c hc) d

end Relaxed
end Check

namespace Check

section Comments

variable {p : Policy} (hskip : p.skipCommentLines = true)
include hskip

theorem judged_cons (l : Line) (lines : List Line) :
    judged p (l :: lines) =
      if l.text.startsWith "!" then judged p lines else l :: judged p lines := by
  rw [judged, List.filter_cons, hskip, Bool.true_and, judged, hskip, Line.isComment]
  cases l.text.startsWith "!" <;> rfl

/-- An emptied line keeps its number, so what is found behind it stays where it was. -/
theorem flatMap_judged_numberFrom {onLine : Line → List Finding}
    (hempty : ∀ l, l.text = [] → onLine l = []) (start : Int) (pieces : List Text) :
    (judged p (Line.numberFrom start (pieces.map Text.strip))).flatMap onLine =
      (Line.numberFrom start ((pieces.map Text.uncommented).map Text.strip)).flatMap onLine := by
  induction pieces generalizing start with
  | nil => rfl
  | cons piece others ih =>
    simp only [List.map_cons, Line.numberFrom_cons, List.flatMap_cons, judged_cons hskip,
      Text.strip_uncommented]
    split_ifs
    · rw [hempty _ rfl, List.nil_append, ih]
    · rw [List.flatMap_cons, ih]

end Comments

/-- What the line checks find without the comment lines, they find where those are emptied. -/
theorem flatMap_judged_withoutComments {p q : Policy} (hp : p.skipCommentLines = true)
    (hq : q.skipCommentLines = false) {onLine : Line → List Finding}
    (hempty : ∀ l, l.text = [] → onLine l = []) (t : Text) :
    (judged p (Line.ofText t)).flatMap onLine =
      (judged q (Line.ofText t.withoutComments)).flatMap onLine := by
  have hall : judged q (Line.ofText t.withoutComments) = Line.ofText t.withoutComments := by
    rw [judged, hq]
    exact List.filter_true _
  rw [hall, Line.ofText_eq, Line.ofText_eq, Text.lines_withoutComments, Text.lines,
    flatMap_judged_numberFrom hp hempty]

theorem run_withoutComments {c : Check} (hc : c ∈ standard)
    (hname : c.name = "weak_passwords" ∨ c.name = "insecure_services") (p : Policy) (t : Text) :
    c.run { p with skipCommentLines := true } (.ofText t) =
      c.run { p with skipCommentLines := false } (.ofText t.withoutComments) := by
  simp only [standard, List.mem_cons, List.not_mem_nil, or_false] at hc
  rcases hc with rfl | rfl | rfl | rfl | rfl
  · refine congrArg (fun found : List Finding => some (found.map Finding.issue)) ?_
    refine flatMap_judged_withoutComments rfl rfl ?_ t
    rintro ⟨number, text⟩ rfl
    rfl
  · refine congrArg (fun found : List Finding => some (found.map Finding.issue)) ?_
    refine flatMap_judged_withoutComments rfl rfl ?_ t
    rintro ⟨number, text⟩ rfl
    rfl
  · exact absurd hname (by decide)
  · exact absurd hname (by decide)
  · exact absurd hname (by decide)

end Check
end ConfigAudit
