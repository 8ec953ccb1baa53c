import ConfigAudit.Audit.Score
import Mathlib.Tactic.Common

/-! Severity counts as sums over the issues, and how the score depends on them. -/
namespace ConfigAudit

namespace SeverityCounts

/-- The number of findings of one severity. -/
def number (c : SeverityCounts) : Severity → Int
  | .critical => c.critical
  | .high => c.high
  | .medium => c.medium
  | .low => c.low

instance : Add SeverityCounts where
  add c d := ⟨c.critical + d.critical, c.high + d.high, c.medium + d.medium, c.low + d.low⟩

@[simp] theorem add_critical (c d : SeverityCounts) : (c + d).critical = c.critical + d.critical :=
  rfl

@[simp] theorem add_high (c d : SeverityCounts) : (c + d).high = c.high + d.high := rfl

@[simp] theorem add_medium (c d : SeverityCounts) : (c + d).medium = c.medium + d.medium := rfl

@[simp] theorem add_low (c d : SeverityCounts) : (c + d).low = c.low + d.low := rfl

theorem add_empty (c : SeverityCounts) : c + {} = c := by
  show mk _ _ _ _ = c
  rw [Int.add_zero, Int.add_zero, Int.add_zero, Int.add_zero]

theorem add_comm (c d : SeverityCounts) : c + d = d + c := by
  show mk _ _ _ _ = mk _ _ _ _
  rw [Int.add_comm c.critical, Int.add_comm c.high, Int.add_comm c.medium, Int.add_comm c.low]

structure Nonneg (c : SeverityCounts) : Prop where
  critical : 0 ≤ c.critical
  high : 0 ≤ c.high
  medium : 0 ≤ c.medium
  low : 0 ≤ c.low

theorem ofSeverities_nonneg (l : List Severity) : (ofSeverities l).Nonneg :=
  ⟨Int.natCast_nonneg _, Int.natCast_nonneg _, Int.natCast_nonneg _, Int.natCast_nonneg _⟩

theorem ofIssues_nonneg (l : List Issue) : (ofIssues l).Nonneg := ofSeverities_nonneg _

theorem ofSeverities_append (l m : List Severity) :
    ofSeverities (l ++ m) = ofSeverities l + ofSeverities m := by
  simp only [ofSeverities, List.count_append, Int.natCast_add]
  rfl

theorem ofIssues_append (l m : List Issue) : ofIssues (l ++ m) = ofIssues l + ofIssues m := by
  rw [ofIssues, List.map_append, ofSeverities_append, ofIssues, ofIssues]

theorem number_ofIssues (l : List Issue) (s : Severity) :
    (ofIssues l).number s = l.countP (·.severity = s) := by
  have hcount : (ofIssues l).number s = (l.map (·.severity)).count s := by
    cases s <;> rfl
  rw [hcount, List.count, List.countP_map]
  rfl

theorem number_ofIssues_pos_iff (l : List Issue) (s : Severity) :
    0 < (ofIssues l).number s ↔ ∃ i ∈ l, i.severity = s := by
  rw [number_ofIssues, Int.natCast_pos, List.countP_pos_iff]
  simp only [decide_eq_true_eq]

theorem ofIssues_perm {l m : List Issue} (h : l.Perm m) : ofIssues l = ofIssues m := by
  have hs := h.map (·.severity)
  simp only [ofIssues, ofSeverities, hs.count_eq]

/-- Counts are compared severity by severity. -/
instance : LE SeverityCounts :=
  ⟨fun c d => c.critical ≤ d.critical ∧ c.high ≤ d.high ∧ c.medium ≤ d.medium ∧ c.low ≤ d.low⟩

theorem le_iff {c d : SeverityCounts} :
    c ≤ d ↔ c.critical ≤ d.critical ∧ c.high ≤ d.high ∧ c.medium ≤ d.medium ∧ c.low ≤ d.low :=
  Iff.rfl

theorem le_refl (c : SeverityCounts) : c ≤ c :=
  ⟨Int.le_refl _, Int.le_refl _, Int.le_refl _, Int.le_refl _⟩

theorem add_le_add {c d e f : SeverityCounts} (h : c ≤ d) (h' : e ≤ f) : c + e ≤ d + f := by
  simp only [le_iff, add_critical, add_high, add_medium, add_low] at h h' ⊢
  omega

theorem le_add {d : SeverityCounts} (hd : d.Nonneg) (c : SeverityCounts) : c ≤ c + d := by
  obtain ⟨hcritical, hhigh, hmedium, hlow⟩ := hd
  simp only [le_iff, add_critical, add_high, add_medium, add_low]
  omega

theorem ofSeverities_le {l m : List Severity} (h : l.Sublist m) :
    ofSeverities l ≤ ofSeverities m :=
  ⟨Int.ofNat_le.mpr (h.count_le _), Int.ofNat_le.mpr (h.count_le _),
    Int.ofNat_le.mpr (h.count_le _), Int.ofNat_le.mpr (h.count_le _)⟩

theorem ofIssues_le {l m : List Issue} (h : l.Sublist m) : ofIssues l ≤ ofIssues m :=
  ofSeverities_le (h.map _)

/-- Every issue has one severity, so the counts add up to the number of issues. -/
theorem ofIssues_total (l : List Issue) : (ofIssues l).total = l.length := by
  induction l with
  | nil => rfl
  | cons i r ih =>
    simp only [ofIssues, ofSeverities, total, List.map_cons, List.length_cons] at ih ⊢
    cases i.severity <;> simp <;> omega

end SeverityCounts

/-- The deductions of the weights; the starting score may be anything. -/
structure PenaltyWeights.Nonneg (w : PenaltyWeights) : Prop where
  critical : 0 ≤ w.critical
  high : 0 ≤ w.high
  medium : 0 ≤ w.medium
  low : 0 ≤ w.low

theorem PenaltyWeights.standard_nonneg : PenaltyWeights.standard.Nonneg :=
  ⟨by decide, by decide, by decide, by decide⟩

/-- The score before it is kept between 0 and 100. -/
def PenaltyWeights.balance (w : PenaltyWeights) (c : SeverityCounts) : Int :=
  w.base - (c.critical * w.critical + c.high * w.high + c.medium * w.medium + c.low * w.low)

/-- Only a score above zero has to be looked at in a comparison. -/
theorem score_le_score {w v : PenaltyWeights} {c d : SeverityCounts}
    (h : 0 < w.balance c → w.balance c ≤ v.balance d) : score w c ≤ score v d := by
  show max 0 (min 100 (w.balance c)) ≤ max 0 (min 100 (v.balance d))
  by_cases hpos : 0 < w.balance c
  · have hle := h hpos
    omega
  · omega

/-- Further findings never raise the score. -/
theorem score_le_of_counts_le {w : PenaltyWeights} (hw : w.Nonneg) {c d : SeverityCounts}
    (h : c ≤ d) : score w d ≤ score w c := by
  obtain ⟨hcritical, hhigh, hmedium, hlow⟩ := h
  have hcritical := Int.mul_le_mul_of_nonneg_right hcritical hw.critical
  have hhigh := Int.mul_le_mul_of_nonneg_right hhigh hw.high
  have hmedium := Int.mul_le_mul_of_nonneg_right hmedium hw.medium
  have hlow := Int.mul_le_mul_of_nonneg_right hlow hw.low
  refine score_le_score fun _ => ?_
  unfold PenaltyWeights.balance
  omega

theorem score_add_le {w : PenaltyWeights} (hw : w.Nonneg) (c : SeverityCounts)
    {d : SeverityCounts} (hd : d.Nonneg) : score w (c + d) ≤ score w c :=
  score_le_of_counts_le hw (SeverityCounts.le_add hd c)

/-- Taking issues away does not lower the score. -/
theorem score_le_of_sublist {w : PenaltyWeights} (hw : w.Nonneg) {l m : List Issue}
    (h : l.Sublist m) : score w (.ofIssues m) ≤ score w (.ofIssues l) :=
  score_le_of_counts_le hw (SeverityCounts.ofIssues_le h)

theorem score_bounds (w : PenaltyWeights) (c : SeverityCounts) :
    0 ≤ score w c ∧ score w c ≤ 100 := by
  unfold score
  omega

end ConfigAudit
