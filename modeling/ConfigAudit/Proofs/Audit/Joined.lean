import ConfigAudit.Proofs.Audit.Coherence
import ConfigAudit.Proofs.Check.Joined

/-! Auditing is modular over parts that a `!` line separates: the counts of a whole are the sums of
the counts of its parts, and no part can be worse than the whole. -/
namespace ConfigAudit

namespace Check

theorem runAll_modular_joined (p : Policy) (a b : Text) :
    (runAll modular p (.ofText (a.joined b))).Perm
      (runAll modular p (.ofText a) ++
        (runAll modular p (.ofText b)).map (·.renumber a.offset)) := by
  have heach : ∀ c ∈ modular, ((c.run p (.ofText (a.joined b))).getD []).Perm
      ((c.run p (.ofText a)).getD [] ++
        ((c.run p (.ofText b)).getD []).map (·.renumber a.offset)) := by
    intro c hc
    obtain ⟨onFirst, onSecond, onBoth, hfirst, hsecond, hboth, hperm⟩ := modular_joined hc p a b
    rw [hfirst, hsecond, hboth]
    exact hperm
  unfold runAll
  rw [List.map_flatMap]
  exact (List.Perm.flatMap_left _ heach).trans (List.flatMap_append_perm _ _ _).symm

theorem ofIssues_map_renumber (n : Nat) (l : List Issue) :
    SeverityCounts.ofIssues (l.map (·.renumber n)) = SeverityCounts.ofIssues l := by
  simp only [SeverityCounts.ofIssues, List.map_map, Function.comp_def, Issue.renumber_severity]

theorem counts_modular_joined (p : Policy) (a b : Text) :
    SeverityCounts.ofIssues (runAll modular p (.ofText (a.joined b))) =
      SeverityCounts.ofIssues (runAll modular p (.ofText a)) +
        SeverityCounts.ofIssues (runAll modular p (.ofText b)) := by
  rw [SeverityCounts.ofIssues_perm (runAll_modular_joined p a b), SeverityCounts.ofIssues_append,
    ofIssues_map_renumber]

end Check

namespace Auditor

/-- On two configurations with a `!` line between them, the inventory, the issues and the severity
counts are those of the first part and then those of the second part moved down. If no finding
raises the score, the whole scores no better than either part. -/
theorem analyze_joined (p : Policy) (a b : Text) :
    Inventory.ofText (a.joined b) = Inventory.ofText a ++ (Inventory.ofText b).moveBy a.offset ∧
    (∀ c ∈ Check.modular, ∃ onFirst onSecond onBoth,
      c.run p (.ofText a) = some onFirst ∧ c.run p (.ofText b) = some onSecond ∧
      c.run p (.ofText (a.joined b)) = some onBoth ∧
      onBoth.Perm (onFirst ++ onSecond.map (·.renumber a.offset))) ∧
    SeverityCounts.ofIssues (Check.runAll Check.modular p (.ofText (a.joined b))) =
      SeverityCounts.ofIssues (Check.runAll Check.modular p (.ofText a)) +
        SeverityCounts.ofIssues (Check.runAll Check.modular p (.ofText b)) ∧
    (p.defaultWeights.Nonneg →
      ((Auditor.mk p Check.modular).analyze (a.joined b) none).securityScore ≤
          ((Auditor.mk p Check.modular).analyze a none).securityScore ∧
        ((Auditor.mk p Check.modular).analyze (a.joined b) none).securityScore ≤
          ((Auditor.mk p Check.modular).analyze b none).securityScore) := by
  refine ⟨Inventory.ofText_joined a b, fun c hc => Check.modular_joined hc p a b,
    Check.counts_modular_joined p a b, fun hw => ?_⟩
  simp only [securityScore_none, Check.counts_modular_joined]
  refine ⟨score_add_le hw _ (SeverityCounts.ofIssues_nonneg _), ?_⟩
  rw [SeverityCounts.add_comm]
  exact score_add_le hw _ (SeverityCounts.ofIssues_nonneg _)

theorem analyze_joined_interface_vtyLine :
    PenaltyWeights.standard.Nonneg ∧
    (∃ c ∈ Check.modular, c.name = "weak_passwords" ∧ ∃ onFirst onSecond onBoth,
      c.run {} (.ofText "interface A\nno shutdown") = some onFirst ∧
      c.run {} (.ofText "line vty 0 4\npassword cisco") = some onSecond ∧
      c.run {} (.ofText (Text.joined "interface A\nno shutdown" "line vty 0 4\npassword cisco")) =
        some onBoth ∧
      onBoth.Perm (onFirst ++ onSecond.map (·.renumber 3))) ∧
    ((Auditor.mk {} Check.modular).analyze
        (Text.joined "interface A\nno shutdown" "line vty 0 4\npassword cisco")
          none).securityScore ≤
      ((Auditor.mk {} Check.modular).analyze "line vty 0 4\npassword cisco" none).securityScore := by
  have hw := PenaltyWeights.standard_nonneg
  have hoffset : Text.offset "interface A\nno shutdown" = 3 := by decide
  have hjoined := analyze_joined {} "interface A\nno shutdown" "line vty 0 4\npassword cisco"
  rw [hoffset] at hjoined
  obtain ⟨-, hchecks, -, hscore⟩ := hjoined
  exact ⟨hw, ⟨_, List.mem_cons_self, rfl, hchecks _ List.mem_cons_self⟩, (hscore hw).2⟩

end Auditor
end ConfigAudit
