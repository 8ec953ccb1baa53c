import ConfigAudit.Proofs.Audit.PasswordScore

/-! The scores of the tiers on the same counts. They are ordered where a finding takes no larger part
of the starting score under the better tier. The standard table keeps to that but for one place: a
finding of low severity costs a weak password one point of 40 and a moderate one two points of 70. -/
namespace ConfigAudit

namespace PenaltyWeights

/-- What is deducted from the starting score. -/
def cost (w : PenaltyWeights) (c : SeverityCounts) : Int :=
  c.critical * w.critical + c.high * w.high + c.medium * w.medium + c.low * w.low

theorem balance_eq (w : PenaltyWeights) (c : SeverityCounts) : w.balance c = w.base - w.cost c := rfl

/-- The first table starts no lower, and each finding takes no larger part of where it starts. -/
structure NoHarsherThan (v w : PenaltyWeights) : Prop where
  base_pos : 0 < w.base
  base : w.base ≤ v.base
  critical : v.critical * w.base ≤ w.critical * v.base
  high : v.high * w.base ≤ w.high * v.base
  medium : v.medium * w.base ≤ w.medium * v.base
  low : v.low * w.base ≤ w.low * v.base

instance (v w : PenaltyWeights) : Decidable (v.NoHarsherThan w) :=
  decidable_of_iff (0 < w.base ∧ w.base ≤ v.base ∧ v.critical * w.base ≤ w.critical * v.base ∧
      v.high * w.base ≤ w.high * v.base ∧ v.medium * w.base ≤ w.medium * v.base ∧
      v.low * w.base ≤ w.low * v.base)
    ⟨fun ⟨hpos, hbase, hcritical, hhigh, hmedium, hlow⟩ =>
      ⟨hpos, hbase, hcritical, hhigh, hmedium, hlow⟩,
    fun h => ⟨h.base_pos, h.base, h.critical, h.high, h.medium, h.low⟩⟩

variable {v w : PenaltyWeights} {c : SeverityCounts}

theorem NoHarsherThan.cost_le (h : v.NoHarsherThan w) (hc : c.Nonneg) :
    v.cost c * w.base ≤ w.cost c * v.base := by
  have hcritical := Int.mul_le_mul_of_nonneg_left h.critical hc.critical
  have hhigh := Int.mul_le_mul_of_nonneg_left h.high hc.high
  have hmedium := Int.mul_le_mul_of_nonneg_left h.medium hc.medium
  have hlow := Int.mul_le_mul_of_nonneg_left h.low hc.low
  simp only [cost, Int.add_mul, Int.mul_assoc]
  omega

/-- As long as the harsher table leaves something, the lead of the other is not used up. -/
theorem NoHarsherThan.score_le (h : v.NoHarsherThan w) (hc : c.Nonneg) :
    score w c ≤ score v c := by
  refine score_le_score fun hpos => ?_
  rw [balance_eq] at hpos
  have hlead : 0 ≤ v.base - w.base := Int.sub_nonneg_of_le h.base
  have hleft : w.cost c ≤ w.base := by omega
  have hextra : (v.cost c - w.cost c) * w.base ≤ (v.base - w.base) * w.base :=
    calc (v.cost c - w.cost c) * w.base
        = v.cost c * w.base - w.cost c * w.base := Int.sub_mul ..
      _ ≤ w.cost c * v.base - w.cost c * w.base := Int.sub_le_sub_right (h.cost_le hc) _
      _ = w.cost c * (v.base - w.base) := (Int.mul_sub ..).symm
      _ ≤ w.base * (v.base - w.base) := Int.mul_le_mul_of_nonneg_right hleft hlead
      _ = (v.base - w.base) * w.base := Int.mul_comm ..
  have hmore : v.cost c - w.cost c ≤ v.base - w.base := Int.le_of_mul_le_mul_right hextra h.base_pos
  rw [balance_eq, balance_eq]
  omega

end PenaltyWeights

/-- The moderate tier has lost its lead of 30 points over the weak one, which has something left of
its own 40 points. -/
structure SeverityCounts.LeadLost (c : SeverityCounts) : Prop where
  spent : 30 < 4 * c.critical + 3 * c.high + c.medium + c.low
  remaining : 8 * c.critical + 5 * c.high + 3 * c.medium + c.low < 40

theorem SeverityCounts.LeadLost.low {c : SeverityCounts} (hc : c.Nonneg) (h : c.LeadLost) :
    19 ≤ c.low := by
  obtain ⟨hcritical, hhigh, hmedium, -⟩ := hc
  obtain ⟨hspent, hremaining⟩ := h
  omega

namespace Strength

theorem penalties_noHarsherThan {s t : Strength} (h : s < t) (hpair : ¬(s = weak ∧ t = moderate)) :
    t.penalties.NoHarsherThan s.penalties := by
  revert h hpair
  cases s <;> cases t <;> decide

variable {c : SeverityCounts} (hc : c.Nonneg)
include hc

theorem score_moderate_lt_weak_iff :
    score moderate.penalties c < score weak.penalties c ↔ c.LeadLost := by
  obtain ⟨hcritical, hhigh, hmedium, hlow⟩ := hc
  simp only [score, penalties]
  constructor
  · intro h
    constructor <;> omega
  · rintro ⟨hspent, hremaining⟩
    omega

theorem score_weak_le : score weak.penalties c ≤ score moderate.penalties c + 5 := by
  obtain ⟨hcritical, hhigh, hmedium, hlow⟩ := hc
  simp only [score, penalties]
  omega

/-- Of all pairs of tiers only the weak and the moderate one can change places. -/
theorem score_le_score_iff_of_lt {s t : Strength} (h : s < t) :
    score s.penalties c ≤ score t.penalties c ↔ ¬(s = weak ∧ t = moderate ∧ c.LeadLost) := by
  by_cases hpair : s = weak ∧ t = moderate
  · obtain ⟨rfl, rfl⟩ := hpair
    rw [← Int.not_lt, score_moderate_lt_weak_iff hc]
    simp only [true_and]
  · refine iff_of_true ((penalties_noHarsherThan h hpair).score_le hc) ?_
    exact fun hlost => hpair ⟨hlost.1, hlost.2.1⟩

end Strength

/-- Under the standard penalties counts score no worse under a better tier, except that the weak tier
is ahead of the moderate one, by five points at most, where the latter has lost its lead. That takes
19 findings of low severity. Without a password counts score as under the strong tier. -/
theorem score_weightsFor_ordered {p : Policy} (hd : p.defaultWeights = .standard)
    (hs : p.strengthWeights = .standard) {c : SeverityCounts} (hc : c.Nonneg) :
    (∀ s t : Strength, s < t →
      (score (p.weightsFor (some s)) c ≤ score (p.weightsFor (some t)) c ↔
        ¬(s = .weak ∧ t = .moderate ∧ c.LeadLost))) ∧
    (c.LeadLost → 19 ≤ c.low) ∧
    score (p.weightsFor (some .weak)) c ≤ score (p.weightsFor (some .moderate)) c + 5 ∧
    score (p.weightsFor none) c = score (p.weightsFor (some .strong)) c := by
  simp only [Policy.weightsFor_of_standard hd hs, Option.getD_some, Option.getD_none]
  exact ⟨fun s t h => Strength.score_le_score_iff_of_lt hc h, SeverityCounts.LeadLost.low hc,
    Strength.score_weak_le hc, trivial⟩

/-- One finding of each severity. -/
def oneEach : SeverityCounts := ⟨1, 1, 1, 1⟩

theorem score_weightsFor_ordered_oneEach :
    oneEach.Nonneg ∧
    score (({} : Policy).weightsFor (some .critical)) oneEach ≤
      score (({} : Policy).weightsFor (some .weak)) oneEach ∧
    score (({} : Policy).weightsFor (some .weak)) oneEach ≤
      score (({} : Policy).weightsFor (some .moderate)) oneEach ∧
    score (({} : Policy).weightsFor none) oneEach =
      score (({} : Policy).weightsFor (some .strong)) oneEach := by
  have hc : oneEach.Nonneg := ⟨by decide, by decide, by decide, by decide⟩
  obtain ⟨hordered, hlow, -, hnone⟩ := score_weightsFor_ordered (p := {}) rfl rfl hc
  have hlead : ¬oneEach.LeadLost := fun h => absurd (hlow h) (by decide)
  refine ⟨hc, (hordered .critical .weak (by decide)).mpr fun h => hlead h.2.2, ?_, hnone⟩
  exact (hordered .weak .moderate (by decide)).mpr fun h => hlead h.2.2

/-- With 31 findings of low severity a weak password scores nine points and a moderate one eight. -/
theorem score_moderate_lt_weak_low :
    ({ low := 31 } : SeverityCounts).Nonneg ∧ Strength.weak < Strength.moderate ∧
    ¬score (({} : Policy).weightsFor (some .weak)) { low := 31 } ≤
      score (({} : Policy).weightsFor (some .moderate)) { low := 31 } :=
  ⟨⟨by decide, by decide, by decide, by decide⟩, by decide, by decide⟩

end ConfigAudit
