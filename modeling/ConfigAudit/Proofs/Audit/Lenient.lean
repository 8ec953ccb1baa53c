import ConfigAudit.Proofs.Audit.Coherence
import ConfigAudit.Proofs.Check.Lenient

/-! Audits under a strict and under a relaxed policy. The relaxed one reports some of the issues of
the strict one, in the same order, and its score is not below the other. -/
namespace ConfigAudit

namespace Auditor

section Relaxed

variable {p q : Policy} (h : p.RelaxedTo q) (checks : List Check) (config : Text)
  (password : Option Text)
include h

theorem passwordAnalysis_relaxed :
    ((Auditor.mk q checks).analyze config password).passwordAnalysis =
      ((Auditor.mk p checks).analyze config password).passwordAnalysis := by
  simp only [analyze, analyzePassword, h.analyze_eq]

/-- The lenient switches only take issues away. They leave the rating of the password and the
summary as they are, and where the deductions that apply are not negative, the score is not lowered.
The line checks pass over the comment lines as if these were empty. -/
theorem analyze_relaxed (hchecks : ∀ c ∈ checks, c ∈ Check.standard) :
    let r := (Auditor.mk p checks).analyze config password
    let s := (Auditor.mk q checks).analyze config password
    s.issues.Sublist r.issues ∧ s.passwordAnalysis = r.passwordAnalysis ∧
    s.configSummary = r.configSummary ∧
    ((p.weightsFor (r.passwordAnalysis.map (·.strength))).Nonneg →
      r.securityScore ≤ s.securityScore) ∧
    ∀ c ∈ Check.standard, c.name = "weak_passwords" ∨ c.name = "insecure_services" →
      c.run { p with skipCommentLines := true } (.ofText config) =
        c.run { p with skipCommentLines := false } (.ofText config.withoutComments) := by
  intro r s
  have hanalysis : s.passwordAnalysis = r.passwordAnalysis :=
    passwordAnalysis_relaxed h checks config password
  have hissues : s.issues.Sublist r.issues := by
    rw [issues_eq, issues_eq, AuditResult.passwordIssues, AuditResult.passwordIssues, hanalysis]
    exact (Check.runAll_relaxed h hchecks _).append (List.Sublist.refl _)
  refine ⟨hissues, hanalysis, rfl, fun hw => ?_, fun c hc hname =>
    Check.run_withoutComments hc hname p config⟩
  have hweights : q.weightsFor (s.passwordAnalysis.map (·.strength)) =
      p.weightsFor (r.passwordAnalysis.map (·.strength)) := by
    rw [h.weightsFor_eq, hanalysis]
  calc r.securityScore
      = score (p.weightsFor (r.passwordAnalysis.map (·.strength))) (.ofIssues r.issues) := rfl
    _ ≤ score (p.weightsFor (r.passwordAnalysis.map (·.strength))) (.ofIssues s.issues) :=
        score_le_of_sublist hw hissues
    _ = score (q.weightsFor (s.passwordAnalysis.map (·.strength))) (.ofIssues s.issues) := by
        rw [hweights]
    _ = s.securityScore := rfl

end Relaxed

/-- A policy with every lenient switch turned. -/
def lenient : Policy :=
  { skipCommentLines := true, weakPasswordCaseSensitive := true, extendedBestPractices := false }

/-- A weak credential on a comment line, and one in capitals. -/
def commented : Text := "! transport input ssh\n!secret cisco\nsecret CISCO"

theorem analyze_relaxed_lenient :
    let r := ({} : Auditor).analyze commented (some "hunter2")
    let s := (Auditor.mk lenient Check.standard).analyze commented (some "hunter2")
    commented.withoutComments = ("\n\nsecret CISCO" : Text) ∧
    r.issues.length = 8 ∧ s.issues.length = 2 ∧ s.issues.Sublist r.issues ∧
    s.passwordAnalysis = r.passwordAnalysis ∧ r.securityScore ≤ s.securityScore ∧
    ∀ c ∈ Check.standard, c.name = "weak_passwords" ∨ c.name = "insecure_services" →
      c.run { skipCommentLines := true } (.ofText commented) =
        c.run { skipCommentLines := false } (.ofText commented.withoutComments) := by
  intro r s
  have hrelaxed : ({} : Policy).RelaxedTo lenient :=
    ⟨fun _ => rfl, fun _ => rfl, fun _ => rfl, rfl⟩
  have hweights (tier : Option Strength) : (({} : Policy).weightsFor tier).Nonneg := by
    rcases tier with _ | _ | _ | _ | _ <;> exact ⟨by decide, by decide, by decide, by decide⟩
  obtain ⟨hissues, hanalysis, -, hscore, hruns⟩ :=
    analyze_relaxed hrelaxed Check.standard commented (some "hunter2") (fun _ hc => hc)
  exact ⟨by decide, by decide +kernel, by decide +kernel, hissues, hanalysis, hscore (hweights _),
    hruns⟩

end Auditor
end ConfigAudit
