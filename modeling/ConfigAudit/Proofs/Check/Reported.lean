import ConfigAudit.Check.Basic
import Mathlib.Tactic.Common

/-! What a check reports on a configuration. -/
namespace ConfigAudit.Check

/-- What the check of a name answers on a text. -/
def issues? (name : Text) (p : Policy) (t : Text) : Option (List Issue) :=
  (named? name).bind fun c => c.run p (.ofText t)

/-- The check of a name answers with an issue among others. -/
def Reports (name : Text) (p : Policy) (t : Text) (i : Issue) : Prop :=
  ∃ c, named? name = some c ∧ ∃ issues, c.run p (.ofText t) = some issues ∧ i ∈ issues

theorem reports_iff_mem_issues? {name : Text} {p : Policy} {t : Text} {i : Issue} :
    Reports name p t i ↔ ∃ issues, issues? name p t = some issues ∧ i ∈ issues := by
  simp only [Reports, issues?, Option.bind_eq_some_iff]
  constructor
  · rintro ⟨c, hc, issues, hrun, hi⟩
    exact ⟨issues, ⟨c, hc, hrun⟩, hi⟩
  · rintro ⟨issues, ⟨c, hc, hrun⟩, hi⟩
    exact ⟨c, hc, issues, hrun, hi⟩

theorem reports_iff {name : Text} {category : Option Text}
    {findings : Policy → Document → List Finding}
    (h : named? name = some (ofFindings name category findings)) (p : Policy) (t : Text)
    (i : Issue) : Reports name p t i ↔ ∃ f ∈ findings p (.ofText t), f.issue = i := by
  simp only [Reports, h, Option.some.injEq, exists_eq_left', ofFindings, List.mem_map]

theorem reports_weakPasswords_iff (p : Policy) (t : Text) (i : Issue) :
    Reports "weak_passwords" p t i ↔ ∃ f ∈ weakPasswords p (Line.ofText t), f.issue = i := by
  have hnamed : named? "weak_passwords" =
      some (ofFindings "weak_passwords" none fun p d => weakPasswords p d.lines) := rfl
  exact reports_iff hnamed p t i

theorem reports_insecureServices_iff (p : Policy) (t : Text) (i : Issue) :
    Reports "insecure_services" p t i ↔
      ∃ f ∈ insecureServices p (Line.ofText t), f.issue = i := by
  have hnamed : named? "insecure_services" =
      some (ofFindings "insecure_services" none fun p d => insecureServices p d.lines) := rfl
  exact reports_iff hnamed p t i

theorem reports_missingAccessControl_iff (p : Policy) (t : Text) (i : Issue) :
    Reports "missing_access_control" p t i ↔
      ∃ f ∈ missingAccessControl (Inventory.ofText t), f.issue = i := by
  have hnamed : named? "missing_access_control" =
      some (ofFindings "missing_access_control" (some Finding.missingAccessControl)
        fun _ d => missingAccessControl d.inventory) := rfl
  exact reports_iff hnamed p t i

theorem reports_bestPractices_iff (p : Policy) (t : Text) (i : Issue) :
    Reports "best_practices" p t i ↔ ∃ f ∈ bestPractices p (Line.ofText t), f.issue = i := by
  have hnamed : named? "best_practices" =
      some (ofFindings "best_practices" none fun p d => bestPractices p d.lines) := rfl
  exact reports_iff hnamed p t i

end ConfigAudit.Check
