import ConfigAudit.Proofs.Audit.Coherence
import ConfigAudit.Proofs.Audit.Layout
import ConfigAudit.Proofs.Check.Distinct

/-! An audit reports nothing twice. What is said about the password has a location of its own, and
no two titles of it are the same. -/
namespace ConfigAudit

theorem Finding.location_ne_password (f : Finding) : f.issue.location ≠ "Router Authentication" := by
  cases f with
  | absent directive => cases directive <;> exact fun h => absurd (String.toList_inj.mp h) (by decide)
  | _ => exact fun h => Line.ne_locate (Text.head?_ofList ..) (by decide) _ h.symm

namespace Password

theorem findings_title_nodup (p : Policy) (t : Text) :
    ((findings p t).map (·.title)).Nodup := by
  have hsub : (findings p t).Sublist
      (lengthFindings p t ++ [.onlyDigits] ++ [.onlyLetters] ++ [.commonWord]) := by
    have hite (c : Bool) (f : PasswordFinding) : (if c then [f] else []).Sublist [f] := by
      split_ifs
      · exact List.Sublist.refl _
      · exact List.nil_sublist _
    exact (((List.Sublist.refl _).append (hite _ _)).append (hite _ _)).append (hite _ _)
  refine (hsub.map (·.title)).nodup ?_
  unfold lengthFindings
  split_ifs
  · exact (by decide : (["Password too short", "Password contains only numbers",
      "Password contains only letters", "Password contains common words"] : List Text).Nodup)
  · exact (by decide : (["Password should be longer", "Password contains only numbers",
      "Password contains only letters", "Password contains common words"] : List Text).Nodup)
  · exact (by decide : (["Password contains only numbers", "Password contains only letters",
      "Password contains common words"] : List Text).Nodup)

theorem analyze_issues_nodup (p : Policy) (password : Option Text) :
    (analyze p password).issues.Nodup := by
  simp only [analyze]
  split_ifs
  · exact List.nodup_singleton _
  · exact List.nodup_singleton _
  · refine List.Nodup.of_map Issue.title ?_
    rw [List.map_map]
    exact findings_title_nodup p _

end Password

namespace Auditor

section PasswordIssues

variable (a : Auditor) (config : Text) (password : Option Text)

theorem mem_passwordIssues {i : Issue} (hi : i ∈ (a.analyze config password).passwordIssues) :
    i ∈ (Password.analyze a.policy password).issues := by
  unfold AuditResult.passwordIssues at hi
  cases hanalysis : (a.analyze config password).passwordAnalysis with
  | none =>
    rw [hanalysis] at hi
    cases hi
  | some x =>
    rw [hanalysis] at hi
    rwa [← a.eq_analyze_of_mem_passwordAnalysis config password hanalysis]

theorem passwordIssues_nodup : (a.analyze config password).passwordIssues.Nodup := by
  unfold AuditResult.passwordIssues
  cases hanalysis : (a.analyze config password).passwordAnalysis with
  | none => exact List.nodup_nil
  | some x =>
    rw [Option.elim_some, a.eq_analyze_of_mem_passwordAnalysis config password hanalysis]
    exact Password.analyze_issues_nodup a.policy password

end PasswordIssues

/-- No two issues of an audit by the built-in checks are equal. -/
theorem analyze_nodup (p : Policy) (config : Text) (password : Option Text) :
    ((Auditor.mk p Check.standard).analyze config password).issues.Nodup := by
  have hchecks := Check.runAll_nodup (fun _ hc => hc) Check.standard_names_nodup p config
  rw [issues_eq]
  refine List.nodup_append.mpr ⟨hchecks, passwordIssues_nodup _ config password, ?_⟩
  rintro i hi j hj rfl
  obtain ⟨f, rfl⟩ := Check.exists_finding_of_mem_runAll (fun _ hc => hc) hi
  exact f.location_ne_password (Password.analyze_location (mem_passwordIssues _ config password hj))

end Auditor
end ConfigAudit
