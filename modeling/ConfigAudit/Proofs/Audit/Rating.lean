import ConfigAudit.Proofs.Audit.PasswordScore

/-! What a good score and a good rating say under the standard penalties. The tier of the password
sets a ceiling for the score, and everything that is found lowers it further. -/
namespace ConfigAudit

namespace Rating

theorem label_injective : Function.Injective label := by
  intro a b h
  cases a <;> cases b <;> first | rfl | exact absurd (String.toList_inj.mp h) (by decide)

/-- The lowest score that gets a rating. -/
def floor : Rating → Int
  | excellent => 90
  | good => 75
  | fair => 50
  | poor => 25
  | critical => 0

theorem floor_le_of_ofScore {s : Int} (hs : 0 ≤ s) {r : Rating} (h : ofScore s = r) :
    r.floor ≤ s := by
  subst h
  unfold ofScore
  split_ifs <;> assumption

theorem ofScore_eq_critical {s : Int} (h : s < poor.floor) : ofScore s = critical := by
  simp only [floor] at h
  unfold ofScore
  split_ifs <;> first | rfl | omega

end Rating

namespace Strength

variable (s : Strength) {c : SeverityCounts}

theorem score_penalties_le_base (hc : c.Nonneg) : score s.penalties c ≤ s.penalties.base := by
  obtain ⟨hcritical, hhigh, hmedium, hlow⟩ := hc
  cases s <;> simp only [score, penalties, PenaltyWeights.standard] <;> omega

/-- Only the strong tier starts at the top, and there every finding costs something. -/
theorem score_penalties_eq_hundred_iff (hc : c.Nonneg) :
    score s.penalties c = 100 ↔ c.total = 0 ∧ s = strong := by
  obtain ⟨hcritical, hhigh, hmedium, hlow⟩ := hc
  cases s <;>
    simp only [score, penalties, PenaltyWeights.standard, SeverityCounts.total, reduceCtorEq,
      and_false, and_true, iff_false] <;> omega

/-- One critical finding or two high ones cost more than the best rating allows. -/
theorem counts_of_excellent_le (hc : c.Nonneg)
    (h : Rating.excellent.floor ≤ score s.penalties c) : c.critical = 0 ∧ c.high ≤ 1 := by
  obtain ⟨hcritical, hhigh, hmedium, hlow⟩ := hc
  cases s <;>
    simp only [Rating.floor, score, penalties, PenaltyWeights.standard] at h <;> omega

theorem eq_strong_of_good_le (hc : c.Nonneg) (h : Rating.good.floor ≤ score s.penalties c) :
    s = strong := by
  have hbase := s.score_penalties_le_base hc
  cases s <;> simp only [Rating.floor, penalties] at h hbase <;> first | rfl | omega

end Strength

/-- The tier that an audit is scored by. Without a password it is the strong one. -/
def AuditResult.tier (r : AuditResult) : Strength :=
  (r.passwordAnalysis.map (·.strength)).getD .strong

namespace Auditor

/-- No password is given, or a strong one. The empty password counts as none. -/
def PasswordInOrder (a : Auditor) (password : Option Text) : Prop :=
  password = none ∨ password = some [] ∨ (a.analyzePassword password).strength = .strong

section Tier

variable (a : Auditor) (config : Text)

theorem tier_of_ne_nil {t : Text} (ht : t ≠ []) :
    (a.analyze config (some t)).tier = (a.analyzePassword (some t)).strength := by
  have hfilter : (some t).filter (· ≠ []) = some t := by
    rw [Option.filter_some, decide_eq_true ht, if_pos rfl]
  simp only [AuditResult.tier, analyze, hfilter, Option.map_some, Option.getD_some]

theorem tier_eq_strong_iff (password : Option Text) :
    (a.analyze config password).tier = .strong ↔ a.PasswordInOrder password := by
  match password with
  | none => exact ⟨fun _ => .inl rfl, fun _ => rfl⟩
  | some [] => exact ⟨fun _ => .inr (.inl rfl), fun _ => rfl⟩
  | some (c :: r) => simp [a.tier_of_ne_nil config (List.cons_ne_nil c r), PasswordInOrder]

theorem securityScore_eq_tier (hd : a.policy.defaultWeights = .standard)
    (hs : a.policy.strengthWeights = .standard) (password : Option Text) :
    (a.analyze config password).securityScore =
      score (a.analyze config password).tier.penalties
        (.ofIssues (a.analyze config password).issues) :=
  congrArg (score · _) (Policy.weightsFor_of_standard hd hs _)

end Tier

/-- The full score certifies a configuration and a password that nothing was found on. The best
rating leaves room for one high issue and for no critical one, the two best ones for no password
but a strong one, and a critical password takes every audit down to the worst rating. -/
theorem securityScore_certifies (a : Auditor) (hd : a.policy.defaultWeights = .standard)
    (hs : a.policy.strengthWeights = .standard) (config : Text) (password : Option Text) :
    let r := a.analyze config password
    let label := (Rating.ofScore r.securityScore).label
    (r.securityScore = 100 ↔ r.issues = [] ∧ a.PasswordInOrder password) ∧
    (label = "Excellent" → (∀ i ∈ r.issues, i.severity ≠ .critical) ∧
      r.issues.countP (·.severity = .high) ≤ 1) ∧
    (label = "Excellent" ∨ label = "Good" → a.PasswordInOrder password) ∧
    ∀ t, password = some t → t ≠ [] → (a.analyzePassword (some t)).strength = .critical →
      label = "Critical" := by
  intro r label
  have hcounts := SeverityCounts.ofIssues_nonneg r.issues
  have hscore : r.securityScore = score r.tier.penalties (.ofIssues r.issues) :=
    a.securityScore_eq_tier config hd hs password
  have hfloor (rating : Rating) (h : label = rating.label) :
      rating.floor ≤ score r.tier.penalties (.ofIssues r.issues) := by
    rw [← hscore]
    exact Rating.floor_le_of_ofScore (score_bounds _ _).1 (Rating.label_injective h)
  refine ⟨?_, fun hlabel => ?_, fun hlabel => ?_, fun t hpassword ht hcritical => ?_⟩
  · rw [hscore, r.tier.score_penalties_eq_hundred_iff hcounts, a.tier_eq_strong_iff,
      SeverityCounts.ofIssues_total, Int.natCast_eq_zero, List.length_eq_zero_iff]
  · obtain ⟨hcritical, hhigh⟩ := r.tier.counts_of_excellent_le hcounts (hfloor .excellent hlabel)
    have hnone := SeverityCounts.number_ofIssues_pos_iff r.issues .critical
    have hcount := SeverityCounts.number_ofIssues r.issues .high
    simp only [SeverityCounts.number] at hnone hcount
    refine ⟨fun i hi hsevere => ?_, by omega⟩
    have hpos := hnone.mpr ⟨i, hi, hsevere⟩
    omega
  · rw [← a.tier_eq_strong_iff config]
    refine r.tier.eq_strong_of_good_le hcounts ?_
    rcases hlabel with hlabel | hlabel
    · exact Int.le_trans (by decide) (hfloor .excellent hlabel)
    · exact hfloor .good hlabel
  · subst hpassword
    have htier : r.tier = .critical := (a.tier_of_ne_nil config ht).trans hcritical
    have hbase := r.tier.score_penalties_le_base hcounts
    rw [← hscore, htier] at hbase
    exact congrArg Rating.label (Rating.ofScore_eq_critical (Int.lt_of_le_of_lt hbase (by decide)))

/-- A configuration on which only the further hardening directives are missed. -/
def remotelyHardened : Text := "line vty 0 4\n transport input ssh\n access-class 1 in"

/-- An auditor that does not ask for those. -/
def basic : Auditor := { policy := { extendedBestPractices := false } }

theorem securityScore_certifies_remotelyHardened :
    (basic.analyze remotelyHardened (some "Xk3!Xk3!Xk3!")).securityScore = 100 ∧
    (basic.analyze remotelyHardened (some "Xk3!Xk3!Xk3!")).issues = [] ∧
    (Rating.ofScore (basic.analyze remotelyHardened (some "Xk3!Xk3!Xk3!")).securityScore).label =
      ("Excellent" : Text) ∧
    (basic.analyze remotelyHardened (some "Xk3!Xk3!Xk3!")).issues.countP
      (·.severity = .high) ≤ 1 ∧
    basic.PasswordInOrder (some "Xk3!Xk3!Xk3!") ∧
    (basic.analyzePassword (some "cisco")).strength = .critical ∧
    (Rating.ofScore (basic.analyze remotelyHardened (some "cisco")).securityScore).label =
      ("Critical" : Text) := by
  have htop : (basic.analyze remotelyHardened (some "Xk3!Xk3!Xk3!")).securityScore = 100 := by
    decide +kernel
  have hlabel : (Rating.ofScore
      (basic.analyze remotelyHardened (some "Xk3!Xk3!Xk3!")).securityScore).label =
        ("Excellent" : Text) := by
    rw [htop]
    rfl
  have hcritical : (basic.analyzePassword (some "cisco")).strength = .critical := by decide
  have hstrong := securityScore_certifies basic rfl rfl remotelyHardened (some "Xk3!Xk3!Xk3!")
  have hweak := securityScore_certifies basic rfl rfl remotelyHardened (some "cisco")
  exact ⟨htop, (hstrong.1.mp htop).1, hlabel, (hstrong.2.1 hlabel).2,
    hstrong.2.2.1 (.inl hlabel), hcritical, hweak.2.2.2 _ rfl (by decide) hcritical⟩

end Auditor
end ConfigAudit
