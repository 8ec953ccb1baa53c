import ConfigAudit.Password.Analysis
import ConfigAudit.Proofs.Finding.Counts
import Mathlib.Tactic.Common

/-! The tiers of a password in their order, and the findings that go with each of them. -/
namespace ConfigAudit

namespace Strength

/-- The place of a tier, counted from the weakest one. -/
def rank : Strength → Nat
  | critical => 0
  | weak => 1
  | moderate => 2
  | strong => 3

/-- A weaker tier is the smaller one. -/
instance : LT Strength := ⟨fun s t => s.rank < t.rank⟩

instance (s t : Strength) : Decidable (s < t) := inferInstanceAs (Decidable (s.rank < t.rank))

theorem lt_iff {s t : Strength} : s < t ↔ s.rank < t.rank := Iff.rfl

/-- What is counted on a password of a tier. At most three of the four grave findings can be made
on one password, since it does not consist of digits only and of letters only. -/
def Finds : Strength → SeverityCounts → Prop
  | critical, c => 1 ≤ c.critical ∧ 0 ≤ c.high ∧ 0 ≤ c.medium ∧ 0 ≤ c.low
  | weak, c => c.critical = 0 ∧ 1 ≤ c.high ∧ c.high ≤ 3 ∧ c.medium = 0 ∧ c.low = 0
  | moderate, c | strong, c => c.critical = 0 ∧ c.high = 0 ∧ c.medium = 0 ∧ c.low = 0

theorem Finds.nonneg {s : Strength} {c : SeverityCounts} (h : s.Finds c) : c.Nonneg := by
  cases s <;> simp only [Finds] at h <;>
    exact ⟨by omega, by omega, by omega, by omega⟩

end Strength

theorem PasswordFinding.severity_eq (f : PasswordFinding) :
    f.severity = .critical ∨ f.severity = .high := by
  cases f <;> simp [severity]

namespace Password

theorem isDigit_iff (c : Char) : c.isDigit = true ↔ '0' ≤ c ∧ c ≤ '9' :=
  Bool.and_eq_true_iff.trans (and_congr decide_eq_true_iff decide_eq_true_iff)

theorem isUpper_iff (c : Char) : c.isUpper = true ↔ 'A' ≤ c ∧ c ≤ 'Z' := decide_eq_true_iff

theorem isLower_iff (c : Char) : c.isLower = true ↔ 'a' ≤ c ∧ c ≤ 'z' :=
  Bool.and_eq_true_iff.trans (and_congr decide_eq_true_iff decide_eq_true_iff)

theorem isAlpha_iff (c : Char) :
    c.isAlpha = true ↔ ('A' ≤ c ∧ c ≤ 'Z') ∨ ('a' ≤ c ∧ c ≤ 'z') :=
  Bool.or_eq_true_iff.trans (or_congr (isUpper_iff c) (isLower_iff c))

/-- The digits come before the letters. -/
theorem isAlpha_eq_false_of_isDigit {c : Char} (h : c.isDigit) : c.isAlpha = false := by
  have hnine : c ≤ '9' := ((isDigit_iff c).mp h).2
  rw [← Bool.not_eq_true, isAlpha_iff]
  rintro (⟨hletter, -⟩ | ⟨hletter, -⟩)
  · exact absurd (Char.le_trans hletter hnine) (by decide)
  · exact absurd (Char.le_trans hletter hnine) (by decide)

theorem not_digits_and_letters {t : Text} (h : t ≠ []) (hdigits : t.all Char.isDigit = true) :
    t.all Char.isAlpha = false := by
  cases t with
  | nil => exact absurd rfl h
  | cons c r =>
    rw [List.all_cons, Bool.and_eq_true] at hdigits
    rw [List.all_cons, isAlpha_eq_false_of_isDigit hdigits.1, Bool.false_and]

theorem lengthFindings_length_le (p : Policy) (t : Text) : (lengthFindings p t).length ≤ 1 := by
  unfold lengthFindings
  split_ifs <;> simp only [List.length_cons, List.length_nil] <;> omega

private theorem length_ite_le (c : Bool) (f : PasswordFinding) :
    (if c then [f] else []).length ≤ 1 := by
  cases c
  · exact Nat.zero_le 1
  · exact Nat.le_refl 1

theorem findings_length_le (p : Policy) {t : Text} (h : t ≠ []) : (findings p t).length ≤ 3 := by
  have hlength := lengthFindings_length_le p t
  have hdigits := length_ite_le (t.all Char.isDigit) .onlyDigits
  have hletters := length_ite_le (t.all Char.isAlpha) .onlyLetters
  have hcommon := length_ite_le (hasCommonWord p t) .commonWord
  simp only [findings, List.length_append]
  by_cases hall : t.all Char.isDigit = true
  · rw [not_digits_and_letters h hall] at hletters ⊢
    have hnone : (if false then [PasswordFinding.onlyLetters] else []).length = 0 := rfl
    omega
  · rw [Bool.eq_false_iff.mpr hall] at hdigits ⊢
    have hnone : (if false then [PasswordFinding.onlyDigits] else []).length = 0 := rfl
    omega

end Password

/-- The grade looks for the worst severity, and a list of few grave findings leaves few of them. -/
theorem Strength.finds_grade (p : Policy) (t : Text) {found : List Severity}
    (hgrave : ∀ s ∈ found, s = .critical ∨ s = .high) (hlength : found.length ≤ 3) :
    (Password.grade p t found).Finds (.ofSeverities found) := by
  have hmedium : found.count .medium = 0 := List.count_eq_zero.mpr fun hm => by
    rcases hgrave _ hm with h | h <;> cases h
  have hlow : found.count .low = 0 := List.count_eq_zero.mpr fun hm => by
    rcases hgrave _ hm with h | h <;> cases h
  have hhigh : found.count .high ≤ 3 := Nat.le_trans List.count_le_length hlength
  unfold Password.grade
  by_cases hcritical : Severity.critical ∈ found
  · rw [if_pos (List.contains_iff_mem.mpr hcritical)]
    have hcount := List.count_pos_iff.mpr hcritical
    simp only [Finds, SeverityCounts.ofSeverities]
    omega
  have hnone : found.count .critical = 0 := List.count_eq_zero.mpr hcritical
  rw [if_neg (mt List.contains_iff_mem.mp hcritical)]
  by_cases hhas : Severity.high ∈ found
  · rw [if_pos (List.contains_iff_mem.mpr hhas)]
    have hcount := List.count_pos_iff.mpr hhas
    simp only [Finds, SeverityCounts.ofSeverities]
    omega
  have hnohigh : found.count .high = 0 := List.count_eq_zero.mpr hhas
  rw [if_neg (mt List.contains_iff_mem.mp hhas)]
  split_ifs <;> simp only [Finds, SeverityCounts.ofSeverities] <;> omega

/-- Whatever is said about a password fits the tier that it is given. -/
theorem Password.analyze_finds (p : Policy) (password : Option Text) :
    (analyze p password).strength.Finds (.ofIssues (analyze p password).issues) := by
  unfold analyze
  by_cases hempty : password.getD [] = []
  · rw [if_pos hempty]
    exact ⟨Int.le_refl 1, Int.le_refl 0, Int.le_refl 0, Int.le_refl 0⟩
  rw [if_neg hempty]
  by_cases hweak : p.isWeakPassword (password.getD []) false = true
  · rw [if_pos hweak]
    exact ⟨Int.le_refl 1, Int.le_refl 0, Int.le_refl 0, Int.le_refl 0⟩
  rw [if_neg hweak]
  have hseverities : ((findings p (password.getD [])).map (·.issue)).map (·.severity) =
      (findings p (password.getD [])).map (·.severity) := by
    rw [List.map_map]
    rfl
  simp only [SeverityCounts.ofIssues, hseverities]
  refine Strength.finds_grade p _ (fun s hs => ?_) ?_
  · obtain ⟨f, -, rfl⟩ := List.mem_map.mp hs
    exact f.severity_eq
  · rw [List.length_map]
    exact findings_length_le p hempty

end ConfigAudit
