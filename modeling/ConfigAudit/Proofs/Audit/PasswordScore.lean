import ConfigAudit.Proofs.Audit.Coherence
import ConfigAudit.Proofs.Password.Tier

/-! Under the standard penalties a better password never makes the overall score worse. A weaker tier
starts lower but makes every finding cheaper, so it matters what is found on the password itself. -/
namespace ConfigAudit

/-- The penalties that go with a tier in the standard table. -/
def Strength.penalties : Strength → PenaltyWeights
  | critical => ⟨20, 5, 3, 2, 1⟩
  | weak => ⟨40, 8, 5, 3, 1⟩
  | moderate => ⟨70, 12, 8, 4, 2⟩
  | strong => .standard

theorem StrengthWeights.get?_standard (s : Strength) : standard.get? s = some s.penalties := by
  cases s <;> rfl

/-- An audit without a password is scored by the penalties of the strong tier. -/
theorem Policy.weightsFor_of_standard {p : Policy} (hd : p.defaultWeights = .standard)
    (hs : p.strengthWeights = .standard) (tier : Option Strength) :
    p.weightsFor tier = (tier.getD .strong).penalties := by
  cases tier with
  | none => exact hd
  | some s =>
    rw [weightsFor, hs, StrengthWeights.get?_standard, Option.getD_some, Option.getD_some]

namespace Strength

/-- Where its cheaper findings would let the weaker tier catch up, both scores are zero already. -/
theorem score_le_of_lt {s t : Strength} (h : s < t) {c d e : SeverityCounts} (hc : c.Nonneg)
    (hd : s.Finds d) (he : t.Finds e) :
    score s.penalties (c + d) ≤ score t.penalties (c + e) := by
  obtain ⟨hcritical, hhigh, hmedium, hlow⟩ := hc
  rw [lt_iff] at h
  refine score_le_score fun hpos => ?_
  cases s <;> cases t <;> simp only [rank] at h <;> simp only [Finds] at hd he <;>
    simp only [PenaltyWeights.balance, penalties, PenaltyWeights.standard,
      SeverityCounts.add_critical, SeverityCounts.add_high, SeverityCounts.add_medium,
      SeverityCounts.add_low] at hpos ⊢ <;> omega

/-- An audit without a password is scored like one with a strong password. -/
theorem score_le_standard (s : Strength) {c d : SeverityCounts} (hc : c.Nonneg) (hd : s.Finds d) :
    score s.penalties (c + d) ≤ score .standard c := by
  have hstrong : strong.Finds {} := ⟨rfl, rfl, rfl, rfl⟩
  by_cases hlt : s < strong
  · have hle := score_le_of_lt hlt hc hd hstrong
    rwa [SeverityCounts.add_empty] at hle
  · cases s with
    | strong => exact score_add_le PenaltyWeights.standard_nonneg c hd.nonneg
    | critical | weak | moderate => exact absurd (by decide) hlt

end Strength

namespace Auditor

theorem securityScore_some (a : Auditor) (hs : a.policy.strengthWeights = .standard)
    (config : Text) {t : Text} (ht : t ≠ []) :
    (a.analyze config (some t)).securityScore =
      score (a.analyzePassword (some t)).strength.penalties
        (.ofIssues (Check.runAll a.checks a.policy (.ofText config)) +
          .ofIssues (a.analyzePassword (some t)).issues) := by
  have hfilter : (some t).filter (· ≠ []) = some t := by
    rw [Option.filter_some, decide_eq_true ht, if_pos rfl]
  simp only [analyze, hfilter, Option.map_some, Option.elim_some, SeverityCounts.ofIssues_append,
    Policy.weightsFor, hs, StrengthWeights.get?_standard, Option.getD_some]

/-- A better password never lowers the score, and none at all is no worse than any. -/
theorem securityScore_le_of_strength_lt (a : Auditor)
    (hd : a.policy.defaultWeights = .standard) (hs : a.policy.strengthWeights = .standard)
    (config : Text) :
    (∀ x y : Text, x ≠ [] → y ≠ [] →
      (a.analyzePassword (some x)).strength < (a.analyzePassword (some y)).strength →
      (a.analyze config (some x)).securityScore ≤ (a.analyze config (some y)).securityScore) ∧
    ∀ password : Option Text,
      (a.analyze config password).securityScore ≤ (a.analyze config none).securityScore := by
  have hissues := SeverityCounts.ofIssues_nonneg (Check.runAll a.checks a.policy (.ofText config))
  constructor
  · intro x y hx hy hlt
    rw [a.securityScore_some hs config hx, a.securityScore_some hs config hy]
    exact Strength.score_le_of_lt hlt hissues (Password.analyze_finds _ _)
      (Password.analyze_finds _ _)
  · intro password
    match password with
    | none => exact Int.le_refl _
    | some [] => exact Int.le_refl _
    | some (c :: r) =>
      rw [a.securityScore_some hs config (List.cons_ne_nil c r), a.securityScore_none, hd]
      exact Strength.score_le_standard _ hissues (Password.analyze_finds _ _)

theorem securityScore_cisco_le :
    (({} : Auditor).analyzePassword (some "cisco")).strength = .critical ∧
    (({} : Auditor).analyzePassword (some "Xk3!Xk3!Xk3!")).strength = .strong ∧
    (({} : Auditor).analyze "line vty 0 4" (some "cisco")).securityScore ≤
      (({} : Auditor).analyze "line vty 0 4" (some "Xk3!Xk3!Xk3!")).securityScore ∧
    (({} : Auditor).analyze "line vty 0 4" (some "cisco")).securityScore ≤
      (({} : Auditor).analyze "line vty 0 4" none).securityScore := by
  have hweak : (({} : Auditor).analyzePassword (some "cisco")).strength = .critical := by decide
  have hstrong : (({} : Auditor).analyzePassword (some "Xk3!Xk3!Xk3!")).strength = .strong := by
    decide
  have hboth := securityScore_le_of_strength_lt {} rfl rfl "line vty 0 4"
  refine ⟨hweak, hstrong, hboth.1 "cisco" "Xk3!Xk3!Xk3!" (by decide) (by decide) ?_, hboth.2 _⟩
  rw [hweak, hstrong]
  decide

end Auditor
end ConfigAudit
