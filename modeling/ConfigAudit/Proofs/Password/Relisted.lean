import ConfigAudit.Proofs.Password.Strict

/-! What is counted against a password under a policy and under a stricter one. Where both give the
same tier, the stricter one counts no less, with one exception: a word of the dictionary has a single
finding, so a password that gets listed there may lose others. -/
namespace ConfigAudit.Password

/-- The findings on what a password consists of. -/
def contentFindings (p : Policy) (t : Text) : List PasswordFinding :=
  (if t.all Char.isDigit then [.onlyDigits] else []) ++
    (if t.all Char.isAlpha then [.onlyLetters] else []) ++
    (if hasCommonWord p t then [.commonWord] else [])

theorem findings_eq (p : Policy) (t : Text) :
    findings p t = lengthFindings p t ++ contentFindings p t := by
  simp only [findings, contentFindings, List.append_assoc]

/-- A password could be guessed whatever its length is. -/
def Predictable (p : Policy) (t : Text) : Prop :=
  OnlyDigits t ∨ OnlyLetters t ∨
    ∃ word ∈ p.commonWords, Text.lowercase word <:+: Text.lowercase t

theorem mem_contentFindings {p : Policy} {t : Text} {f : PasswordFinding} :
    f ∈ contentFindings p t ↔
      (OnlyDigits t ∧ f = .onlyDigits) ∨ (OnlyLetters t ∧ f = .onlyLetters) ∨
        ((∃ word ∈ p.commonWords, Text.lowercase word <:+: Text.lowercase t) ∧ f = .commonWord) := by
  simp only [contentFindings, List.mem_append, List.mem_ite_nil_right, List.mem_singleton,
    all_isDigit_iff, all_isAlpha_iff, hasCommonWord_iff, or_assoc]

theorem contentFindings_eq_nil_iff {p : Policy} {t : Text} :
    contentFindings p t = [] ↔ ¬Predictable p t := by
  rw [List.eq_nil_iff_forall_not_mem, ← not_exists]
  simp only [mem_contentFindings, exists_or, exists_and_left, exists_eq, and_true, Predictable]

theorem severities_lengthFindings (p : Policy) (t : Text) :
    (lengthFindings p t).map (·.severity) =
      if t.length < p.minPasswordLength then [.critical]
      else if t.length < p.recommendedPasswordLength then [.high]
      else [] := by
  unfold lengthFindings
  split_ifs <;> rfl

theorem severities_contentFindings (p : Policy) (t : Text) :
    (contentFindings p t).map (·.severity) =
      List.replicate (contentFindings p t).length .high := by
  refine List.eq_replicate_iff.mpr ⟨List.length_map _, ?_⟩
  simp only [List.forall_mem_map, mem_contentFindings]
  rintro f (⟨-, rfl⟩ | ⟨-, rfl⟩ | ⟨-, rfl⟩) <;> rfl

section Counts

variable {p : Policy} {t : Text} (ht : t ≠ [])
include ht

theorem counts_of_inDictionary (h : InDictionary p t) :
    SeverityCounts.ofIssues (analyze p (some t)).issues = { critical := 1 } := by
  rw [analyze_listed p t ht h]
  rfl

theorem counts_of_not_inDictionary (h : ¬InDictionary p t) :
    SeverityCounts.ofIssues (analyze p (some t)).issues =
      .ofSeverities ((findings p t).map (·.severity)) := by
  rw [analyze_examined p t ht h, SeverityCounts.ofIssues, List.map_map]
  rfl

theorem counts_of_short (h : ¬InDictionary p t) (hshort : (t.length : Int) < p.minPasswordLength) :
    SeverityCounts.ofIssues (analyze p (some t)).issues =
      { critical := 1, high := (contentFindings p t).length } := by
  rw [counts_of_not_inDictionary ht h, findings_eq, List.map_append, severities_contentFindings,
    severities_lengthFindings, if_pos hshort]
  simp [SeverityCounts.ofSeverities, List.count_replicate]

end Counts

/-- A stricter policy lists a password, which the other one finds too short and to have a further
fault. -/
structure Relisted (p q : Policy) (t : Text) : Prop where
  ne_nil : t ≠ []
  listed : InDictionary q t
  unlisted : ¬InDictionary p t
  short : (t.length : Int) < p.minPasswordLength
  predictable : Predictable p t

/-- A password does not consist of digits only and of letters only. -/
theorem Relisted.contentFindings_length {p q : Policy} {t : Text} (h : Relisted p q t) :
    1 ≤ (contentFindings p t).length ∧ (contentFindings p t).length ≤ 2 := by
  have hnone := mt contentFindings_eq_nil_iff.mp (not_not_intro h.predictable)
  have hall := findings_length_le p h.ne_nil
  rw [findings_eq, lengthFindings, if_pos h.short, List.length_append, List.length_singleton] at hall
  have hsome := List.length_pos_iff.mpr hnone
  omega

section Tightened

variable {p q : Policy} (h : p.TightenedTo q) {t : Text}
include h

theorem contentFindings_tightened (t : Text) :
    (contentFindings p t).Sublist (contentFindings q t) := by
  have hcommon (hp : hasCommonWord p t = true) : hasCommonWord q t = true := by
    rw [hasCommonWord_iff] at hp ⊢
    obtain ⟨word, hword, hinfix⟩ := hp
    exact ⟨word, h.commonWords hword, hinfix⟩
  refine (List.Sublist.refl _).append ?_
  by_cases hp : hasCommonWord p t = true
  · rw [if_pos hp, if_pos (hcommon hp)]
  · rw [if_neg hp]
    exact List.nil_sublist _

/-- On a password that is too short for both policies or for none, the severities stay. -/
theorem severities_tightened
    (hshort : (t.length : Int) < q.minPasswordLength → (t.length : Int) < p.minPasswordLength) :
    ((findings p t).map (·.severity)).Sublist ((findings q t).map (·.severity)) := by
  rw [findings_eq, findings_eq, List.map_append, List.map_append]
  refine List.Sublist.append ?_ ((contentFindings_tightened h t).map _)
  rw [severities_lengthFindings, severities_lengthFindings]
  by_cases hq : (t.length : Int) < q.minPasswordLength
  · rw [if_pos (hshort hq), if_pos hq]
  · have hp : ¬(t.length : Int) < p.minPasswordLength := fun hp =>
      hq (Int.lt_of_lt_of_le hp h.minPasswordLength)
    rw [if_neg hp, if_neg hq]
    by_cases hbelow : (t.length : Int) < p.recommendedPasswordLength
    · rw [if_pos hbelow, if_pos (Int.lt_of_lt_of_le hbelow h.recommendedPasswordLength)]
    · rw [if_neg hbelow]
      exact List.nil_sublist _

/-- Where the tier stays, a stricter policy counts no less, unless it lists the password. -/
theorem counts_tightened (ht : t ≠ [])
    (hstrength : (analyze q (some t)).strength = (analyze p (some t)).strength)
    (hrelisted : ¬Relisted p q t) :
    SeverityCounts.ofIssues (analyze p (some t)).issues ≤
      SeverityCounts.ofIssues (analyze q (some t)).issues := by
  have hp := (graded_of_ne_nil p ht).critical
  have hq := (graded_of_ne_nil q ht).critical
  rw [hstrength, hp] at hq
  by_cases hlisted : InDictionary q t
  · by_cases hunlisted : InDictionary p t
    · rw [counts_of_inDictionary ht hlisted, counts_of_inDictionary ht hunlisted]
      exact SeverityCounts.le_refl _
    · -- Newly listed: the tier was critical before, which only the length can have caused.
      rcases hq.mpr (.inr (.inl hlisted)) with hnil | hdictionary | hshort
      · exact absurd hnil ht
      · exact absurd hdictionary hunlisted
      · have hnone : contentFindings p t = [] := contentFindings_eq_nil_iff.mpr fun hpredictable =>
          hrelisted ⟨ht, hlisted, hunlisted, hshort, hpredictable⟩
        rw [counts_of_inDictionary ht hlisted, counts_of_short ht hunlisted hshort, hnone]
        exact SeverityCounts.le_refl _
  · have hunlisted := mt (inDictionary_tightened h) hlisted
    rw [counts_of_not_inDictionary ht hlisted, counts_of_not_inDictionary ht hunlisted]
    refine SeverityCounts.ofSeverities_le (severities_tightened h fun hshort => ?_)
    rcases hq.mpr (.inr (.inr hshort)) with hnil | hdictionary | hshort
    · exact absurd hnil ht
    · exact absurd hdictionary hunlisted
    · exact hshort

end Tightened

end ConfigAudit.Password
