import ConfigAudit.Proofs.Finding.Counts
import ConfigAudit.Proofs.Json.RoundTrip
import Mathlib.Data.List.Basic

/-! The parts of an audit's result agree with each other, whatever the policy and the checks are. -/
namespace ConfigAudit

namespace Advice

/-- When a piece of advice is due. -/
def Due (c : SeverityCounts) (score : Int) : Advice → Prop
  | fixCritical => 0 < c.critical
  | fixHigh => 0 < c.high
  | poorPosture => score < 50
  | bestPractices | regularAudits => True

/-- All advice in the order in which it is given. -/
def all : List Advice := [fixCritical, fixHigh, poorPosture, bestPractices, regularAudits]

theorem text_injective : Function.Injective text := by
  intro a b h
  cases a <;> cases b <;> first | rfl | exact absurd (String.toList_inj.mp h) (by decide)

theorem mem_given (c : SeverityCounts) (score : Int) (a : Advice) :
    a ∈ given c score ↔ a.Due c score := by
  cases a <;> simp [given, Due]

theorem given_sublist_all (c : SeverityCounts) (score : Int) :
    (given c score).Sublist all := by
  have hite : ∀ (p : Prop) [Decidable p] (a : Advice), (if p then [a] else []).Sublist [a] := by
    intro p _ a
    split_ifs
    · exact List.Sublist.refl _
    · exact List.nil_sublist _
  exact (((hite _ _).append (hite _ _)).append (hite _ _)).append (List.Sublist.refl _)

end Advice

/-- The checks that answer add their issues in order. -/
theorem Check.runAll_eq_flatten (checks : List Check) (p : Policy) (d : Document) :
    runAll checks p d = (checks.filterMap fun c => c.run p d).flatten := by
  induction checks with
  | nil => rfl
  | cons c r ih =>
    rw [runAll, List.flatMap_cons, ← runAll, ih]
    rw [List.filterMap_cons]
    cases c.run p d with
    | none => rfl
    | some issues => rfl

theorem Password.gradeScore_bounds (s : Strength) : 0 ≤ gradeScore s ∧ gradeScore s ≤ 100 := by
  cases s <;> decide

theorem Password.analyze_valid (p : Policy) (password : Option Text) :
    (analyze p password).Valid := by
  simp only [analyze]
  split_ifs
  · exact (by decide : (0 : Int) ≤ 0 ∧ (0 : Int) ≤ 100)
  · exact (by decide : (0 : Int) ≤ 10 ∧ (10 : Int) ≤ 100)
  · exact gradeScore_bounds _

/-- What holds between the fields of a result, and between them and what was audited. -/
structure AuditResult.Coherent (a : Auditor) (config password : Option Text)
    (r : AuditResult) : Prop where
  totalIssues : r.totalIssues = r.issues.length
  totalIssues_eq_sum : r.totalIssues = r.critical + r.high + r.medium + r.low
  counts : ∀ s, r.counts.number s = r.issues.countP (·.severity = s)
  issues : r.issues =
    (a.checks.filterMap fun c => c.run a.policy (.ofText (config.getD []))).flatten ++
      r.passwordAnalysis.elim [] (·.issues)
  passwordAnalysis_none : r.passwordAnalysis = none ↔ password = none ∨ password = some []
  passwordAnalysis_some : ∀ x ∈ r.passwordAnalysis, x = Password.analyze a.policy password
  securityScore : r.securityScore =
    score (a.policy.weightsFor (r.passwordAnalysis.map (·.strength))) r.counts
  urgent : Advice.fixCritical.text ∈ r.recommendations ↔ ∃ i ∈ r.issues, i.severity = .critical
  highPriority : Advice.fixHigh.text ∈ r.recommendations ↔ ∃ i ∈ r.issues, i.severity = .high
  poorPosture : Advice.poorPosture.text ∈ r.recommendations ↔ r.securityScore < 50
  closing : [Advice.bestPractices.text, Advice.regularAudits.text] <:+ r.recommendations
  recommendations : r.recommendations.Sublist (Advice.all.map Advice.text)
  configSummary : r.configSummary = (Inventory.ofText (config.getD [])).summary
  valid : r.Valid
  accepted : AuditResult.ofJson r.toJson = .ok r

/-- What an audit says about the password. -/
def AuditResult.passwordIssues (r : AuditResult) : List Issue := r.passwordAnalysis.elim [] (·.issues)

namespace Auditor

theorem issues_eq (a : Auditor) (config : Text) (password : Option Text) :
    (a.analyze config password).issues =
      Check.runAll a.checks a.policy (.ofText config) ++
        (a.analyze config password).passwordIssues := rfl

theorem securityScore_none (a : Auditor) (config : Text) :
    (a.analyze config none).securityScore =
      score a.policy.defaultWeights
        (SeverityCounts.ofIssues (Check.runAll a.checks a.policy (.ofText config))) := by
  simp only [analyze, Option.getD_some, Option.filter_none, Option.map_none, Option.elim_none,
    List.append_nil, Policy.weightsFor]

theorem passwordAnalysis_eq_none_iff (a : Auditor) (config password : Option Text) :
    (a.analyze config password).passwordAnalysis = none ↔
      password = none ∨ password = some [] := by
  cases password with
  | none => simp [analyze]
  | some t => simp [analyze]

theorem eq_analyze_of_mem_passwordAnalysis (a : Auditor) (config password : Option Text)
    {x : PasswordAnalysis} (hx : x ∈ (a.analyze config password).passwordAnalysis) :
    x = Password.analyze a.policy password := by
  obtain ⟨t, ht, rfl⟩ := Option.map_eq_some_iff.mp hx
  rw [(Option.filter_eq_some_iff.mp ht).1]
  rfl

theorem analyze_valid (a : Auditor) (config password : Option Text) :
    (a.analyze config password).Valid := by
  refine ⟨score_bounds _ _, fun x hx => ?_⟩
  rw [a.eq_analyze_of_mem_passwordAnalysis config password hx]
  exact Password.analyze_valid a.policy password

theorem mem_recommendations (a : Auditor) (config password : Option Text)
    (advice : Advice) :
    advice.text ∈ (a.analyze config password).recommendations ↔
      advice.Due (a.analyze config password).counts (a.analyze config password).securityScore := by
  rw [← Advice.mem_given]
  exact List.mem_map_of_injective Advice.text_injective

/-- An audit always gives a result, and its parts fit together. -/
theorem analyze_coherent (a : Auditor) (config password : Option Text) :
    (a.analyze config password).Coherent a config password where
  totalIssues := SeverityCounts.ofIssues_total _
  totalIssues_eq_sum := rfl
  counts := SeverityCounts.number_ofIssues _
  issues := by
    rw [← Check.runAll_eq_flatten]
    rfl
  passwordAnalysis_none := a.passwordAnalysis_eq_none_iff config password
  passwordAnalysis_some _ := a.eq_analyze_of_mem_passwordAnalysis config password
  securityScore := rfl
  urgent := (a.mem_recommendations config password .fixCritical).trans
    (SeverityCounts.number_ofIssues_pos_iff _ .critical)
  highPriority := (a.mem_recommendations config password .fixHigh).trans
    (SeverityCounts.number_ofIssues_pos_iff _ .high)
  poorPosture := a.mem_recommendations config password .poorPosture
  closing := by
    show _ <:+ (_ ++ [Advice.bestPractices, Advice.regularAudits]).map Advice.text
    rw [List.map_append]
    exact List.suffix_append _ _
  recommendations := (Advice.given_sublist_all _ _).map _
  configSummary := rfl
  valid := a.analyze_valid config password
  accepted := AuditResult.reads (a.analyze_valid config password)

end Auditor
end ConfigAudit
