import ConfigAudit.Proofs.Audit.PasswordScore
import ConfigAudit.Proofs.Check.Strict
import ConfigAudit.Proofs.Password.Relisted

/-! Audits under a policy and under a stricter one. The score under the stricter policy is not above
the other, except for a password that is moved into the dictionary: there it has one finding alone,
which may cost less than those that it had before. -/
namespace ConfigAudit

theorem Strength.penalties_nonneg (s : Strength) : s.penalties.Nonneg := by
  cases s <;> exact ⟨by decide, by decide, by decide, by decide⟩

namespace Auditor

section Critical

variable {p : Policy} (hp : p.strengthWeights = .standard) (config : Text) {t : Text} (ht : t ≠ [])
include hp ht

theorem securityScore_of_inDictionary (h : Password.InDictionary p t) :
    ((Auditor.mk p Check.standard).analyze config (some t)).securityScore =
      score Strength.critical.penalties
        (.ofIssues (Check.runAll Check.standard p (.ofText config)) + { critical := 1 }) := by
  have hcritical := (Password.graded_of_ne_nil p ht).critical.mpr (.inr (.inl h))
  rw [securityScore_some _ hp config ht]
  simp only [analyzePassword, hcritical, Password.counts_of_inDictionary ht h]

theorem securityScore_of_short (h : ¬Password.InDictionary p t)
    (hshort : (t.length : Int) < p.minPasswordLength) :
    ((Auditor.mk p Check.standard).analyze config (some t)).securityScore =
      score Strength.critical.penalties
        (.ofIssues (Check.runAll Check.standard p (.ofText config)) +
          { critical := 1, high := (Password.contentFindings p t).length }) := by
  have hcritical := (Password.graded_of_ne_nil p ht).critical.mpr (.inr (.inr hshort))
  rw [securityScore_some _ hp config ht]
  simp only [analyzePassword, hcritical, Password.counts_of_short ht h hshort]

end Critical

section Tightened

variable {p q : Policy} (h : p.TightenedTo q) (hs : p.SameSwitches q)
  (hp : p.strengthWeights = .standard) (hq : q.strengthWeights = .standard)
include h hs

theorem checkCounts_tightened (config : Text) :
    SeverityCounts.ofIssues (Check.runAll Check.standard p (.ofText config)) ≤
      SeverityCounts.ofIssues (Check.runAll Check.standard q (.ofText config)) :=
  SeverityCounts.ofIssues_le (Check.runAll_tightened h hs (fun _ hc => hc) _)

theorem securityScore_none_tightened (hpd : p.defaultWeights = .standard)
    (hqd : q.defaultWeights = .standard) (config : Text) :
    ((Auditor.mk q Check.standard).analyze config none).securityScore ≤
      ((Auditor.mk p Check.standard).analyze config none).securityScore := by
  rw [securityScore_none, securityScore_none, hpd, hqd]
  exact score_le_of_counts_le PenaltyWeights.standard_nonneg (checkCounts_tightened h hs config)

include hp hq

/-- A tier that falls outweighs everything, and where it stays, no less is counted. -/
theorem securityScore_some_tightened {t : Text} (ht : t ≠ []) (hrelisted : ¬Password.Relisted p q t)
    (config : Text) :
    ((Auditor.mk q Check.standard).analyze config (some t)).securityScore ≤
      ((Auditor.mk p Check.standard).analyze config (some t)).securityScore := by
  have hchecks := checkCounts_tightened h hs config
  rw [securityScore_some _ hq config ht, securityScore_some _ hp config ht]
  simp only [analyzePassword]
  rcases Strength.lt_or_eq_of_le (Password.strength_tightened h ht) with hlower | hsame
  · refine Int.le_trans ?_ (Strength.score_le_of_lt hlower (SeverityCounts.ofIssues_nonneg _)
      (Password.analyze_finds q (some t)) (Password.analyze_finds p (some t)))
    exact score_le_of_counts_le (Strength.penalties_nonneg _)
      (SeverityCounts.add_le_add hchecks (SeverityCounts.le_refl _))
  · rw [hsame]
    exact score_le_of_counts_le (Strength.penalties_nonneg _)
      (SeverityCounts.add_le_add hchecks (Password.counts_tightened h ht hsame hrelisted))

/-- Two findings are lost at most, each of which costs three points. -/
theorem securityScore_relisted_le {t : Text} (hrelisted : Password.Relisted p q t) (config : Text) :
    ((Auditor.mk q Check.standard).analyze config (some t)).securityScore ≤
      ((Auditor.mk p Check.standard).analyze config (some t)).securityScore + 6 := by
  have hchecks := checkCounts_tightened h hs config
  obtain ⟨-, hlost⟩ := hrelisted.contentFindings_length
  rw [securityScore_of_inDictionary hq config hrelisted.ne_nil hrelisted.listed,
    securityScore_of_short hp config hrelisted.ne_nil hrelisted.unlisted hrelisted.short]
  simp only [SeverityCounts.le_iff] at hchecks
  simp only [score, Strength.penalties, SeverityCounts.add_critical, SeverityCounts.add_high,
    SeverityCounts.add_medium, SeverityCounts.add_low]
  omega

end Tightened

/-- Where the checks find nothing, a lost finding shows in the score. -/
theorem securityScore_relisted_lt {p q : Policy} (hp : p.strengthWeights = .standard)
    (hq : q.strengthWeights = .standard) {t : Text} (hrelisted : Password.Relisted p q t) :
    ((Auditor.mk p Check.standard).analyze (some []) (some t)).securityScore <
      ((Auditor.mk q Check.standard).analyze (some []) (some t)).securityScore := by
  obtain ⟨hlost, -⟩ := hrelisted.contentFindings_length
  rw [securityScore_of_inDictionary hq [] hrelisted.ne_nil hrelisted.listed,
    securityScore_of_short hp [] hrelisted.ne_nil hrelisted.unlisted hrelisted.short,
    Check.runAll_standard_nil, Check.runAll_standard_nil]
  have hnone : SeverityCounts.ofIssues [] = {} := rfl
  simp only [hnone, score, Strength.penalties, SeverityCounts.add_critical,
    SeverityCounts.add_high, SeverityCounts.add_medium, SeverityCounts.add_low]
  omega

theorem securityScore_tightened {p q : Policy} (h : p.TightenedTo q) (hs : p.SameSwitches q)
    (hp : p.defaultWeights = .standard ∧ p.strengthWeights = .standard)
    (hq : q.defaultWeights = .standard ∧ q.strengthWeights = .standard) {password : Option Text}
    (hrelisted : ∀ t ∈ password, ¬Password.Relisted p q t) (config : Text) :
    ((Auditor.mk q Check.standard).analyze config password).securityScore ≤
      ((Auditor.mk p Check.standard).analyze config password).securityScore := by
  match password with
  | none => exact securityScore_none_tightened h hs hp.1 hq.1 config
  | some [] => exact securityScore_none_tightened h hs hp.1 hq.1 config
  | some (c :: r) =>
    exact securityScore_some_tightened h hs hp.2 hq.2 (List.cons_ne_nil c r) (hrelisted _ rfl) config

/-- Under the standard penalties a stricter policy never raises the score, whatever is audited, but
for a password that it moves into its dictionary although it was too short and predictable before.
For these passwords, and only for these, it raises the score of some text, by six points at most. -/
theorem securityScore_tightened_iff {p q : Policy} (h : p.TightenedTo q) (hs : p.SameSwitches q)
    (hp : p.defaultWeights = .standard ∧ p.strengthWeights = .standard)
    (hq : q.defaultWeights = .standard ∧ q.strengthWeights = .standard) (password : Option Text) :
    ((∀ config : Text, ((Auditor.mk q Check.standard).analyze config password).securityScore ≤
        ((Auditor.mk p Check.standard).analyze config password).securityScore) ↔
      ∀ t ∈ password, ¬Password.Relisted p q t) ∧
    ∀ config : Text, ((Auditor.mk q Check.standard).analyze config password).securityScore ≤
      ((Auditor.mk p Check.standard).analyze config password).securityScore + 6 := by
  by_cases hnone : ∀ t ∈ password, ¬Password.Relisted p q t
  · have hle := securityScore_tightened h hs hp hq hnone
    refine ⟨iff_of_true hle hnone, fun config => ?_⟩
    have := hle config
    omega
  · have hsome := hnone
    push Not at hsome
    obtain ⟨t, rfl, hrelisted⟩ := hsome
    refine ⟨iff_of_false (fun hle => ?_) hnone, fun config => ?_⟩
    · exact absurd (hle []) (Int.not_le.mpr (securityScore_relisted_lt hp.2 hq.2 hrelisted))
    · exact securityScore_relisted_le h hs hp.2 hq.2 hrelisted config

/-- The standard policy with one more weak password. -/
def listing : Policy := { weakPasswords := "login" :: standardWeakPasswords }

theorem listing_tightens : ({} : Policy).TightenedTo listing where
  weakPasswords := List.subset_cons_self _ _
  commonWords := List.Subset.refl _
  minPasswordLength := Int.le_refl _
  recommendedPasswordLength := Int.le_refl _

theorem listing_sameSwitches : ({} : Policy).SameSwitches listing := ⟨rfl, rfl, rfl, rfl⟩

theorem relisted_login : Password.Relisted {} listing "login" where
  ne_nil := by decide
  listed := ⟨"login", List.mem_cons_self, rfl⟩
  unlisted := by
    rw [← Password.isWeakPassword_iff]
    decide
  short := by decide
  predictable := .inr (.inl ((Password.all_isAlpha_iff _).mp rfl))

theorem securityScore_tightened_iff_listing :
    (∀ config : Text,
      ((Auditor.mk listing Check.standard).analyze config (some "cisco")).securityScore ≤
        (({} : Auditor).analyze config (some "cisco")).securityScore) ∧
    ¬(∀ config : Text,
      ((Auditor.mk listing Check.standard).analyze config (some "login")).securityScore ≤
        (({} : Auditor).analyze config (some "login")).securityScore) ∧
    ∀ config : Text,
      ((Auditor.mk listing Check.standard).analyze config (some "login")).securityScore ≤
        (({} : Auditor).analyze config (some "login")).securityScore + 6 := by
  have hweights : ({} : Policy).defaultWeights = .standard ∧
      ({} : Policy).strengthWeights = .standard := ⟨rfl, rfl⟩
  have hlisting := securityScore_tightened_iff listing_tightens listing_sameSwitches hweights hweights
  obtain ⟨hraised, hbound⟩ := hlisting (some "login")
  refine ⟨(hlisting (some "cisco")).1.mpr ?_, fun hle => ?_, hbound⟩
  · intro t ht hrelisted
    obtain rfl := Option.some.inj ht
    exact hrelisted.unlisted ⟨"cisco", List.mem_cons_self, rfl⟩
  · exact hraised.mp hle "login" rfl relisted_login

/-- One more weak password raises the score of an audit. -/
theorem securityScore_raised_login :
    ({} : Policy).TightenedTo listing ∧ ({} : Policy).SameSwitches listing ∧
    ¬((Auditor.mk listing Check.standard).analyze (some []) (some "login")).securityScore ≤
      (({} : Auditor).analyze (some []) (some "login")).securityScore := by
  have hbefore : (({} : Auditor).analyze (some []) (some "login")).securityScore = 9 := by
    decide +kernel
  have hafter :
      ((Auditor.mk listing Check.standard).analyze (some []) (some "login")).securityScore = 15 := by
    decide +kernel
  refine ⟨listing_tightens, listing_sameSwitches, ?_⟩
  rw [hbefore, hafter]
  decide

end Auditor
end ConfigAudit
