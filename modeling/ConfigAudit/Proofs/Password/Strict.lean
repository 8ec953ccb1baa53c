import ConfigAudit.Proofs.Password.Grading

/-! Passwords under a policy and under a stricter one, which has more words and asks for longer
passwords. The stricter policy never rates a password better. -/
namespace ConfigAudit

/-- The second policy has all words of the first and asks for no shorter passwords. -/
structure Policy.TightenedTo (p q : Policy) : Prop where
  weakPasswords : p.weakPasswords ⊆ q.weakPasswords
  commonWords : p.commonWords ⊆ q.commonWords
  minPasswordLength : p.minPasswordLength ≤ q.minPasswordLength
  recommendedPasswordLength : p.recommendedPasswordLength ≤ q.recommendedPasswordLength

namespace Strength

instance : LE Strength := ⟨fun s t => s.rank ≤ t.rank⟩

instance (s t : Strength) : Decidable (s ≤ t) := inferInstanceAs (Decidable (s.rank ≤ t.rank))

theorem le_refl (s : Strength) : s ≤ s := Nat.le_refl s.rank

theorem critical_le (s : Strength) : critical ≤ s := Nat.zero_le s.rank

theorem lt_or_eq_of_le {s t : Strength} (h : s ≤ t) : s < t ∨ s = t := by
  revert h
  cases s <;> cases t <;> decide

end Strength

namespace Password

theorem gradeScore_le {s t : Strength} (h : s ≤ t) : gradeScore s ≤ gradeScore t := by
  revert h
  cases s <;> cases t <;> decide

/-- Any password that is looked at in full scores better than a word of the dictionary. -/
theorem ten_le_gradeScore (s : Strength) : 10 ≤ gradeScore s := by
  cases s <;> decide

section Tightened

variable {p q : Policy} (h : p.TightenedTo q) {t : Text}
include h

theorem inDictionary_tightened (ht : InDictionary p t) : InDictionary q t := by
  obtain ⟨entry, hentry, heq⟩ := ht
  exact ⟨entry, h.weakPasswords hentry, heq⟩

theorem unacceptable_tightened (ht : Unacceptable p t) : Unacceptable q t := by
  rcases ht with hnil | hdictionary | hshort
  · exact .inl hnil
  · exact .inr (.inl (inDictionary_tightened h hdictionary))
  · exact .inr (.inr (Int.lt_of_lt_of_le hshort h.minPasswordLength))

theorem guessable_tightened (ht : Guessable p t) : Guessable q t := by
  rcases ht with hshort | hdigits | hletters | ⟨word, hword, hinfix⟩
  · exact .inl (Int.lt_of_lt_of_le hshort h.recommendedPasswordLength)
  · exact .inr (.inl hdigits)
  · exact .inr (.inr (.inl hletters))
  · exact .inr (.inr (.inr ⟨word, h.commonWords hword, hinfix⟩))

/-- What a tier rules out under the stricter policy, it rules out under the other one. -/
theorem strength_tightened (ht : t ≠ []) :
    (analyze q (some t)).strength ≤ (analyze p (some t)).strength := by
  have hp := graded_of_ne_nil p ht
  have hq := graded_of_ne_nil q ht
  have hunacceptable := mt (unacceptable_tightened h (t := t))
  have hguessable := mt (guessable_tightened h (t := t))
  cases hstrength : (analyze q (some t)).strength with
  | critical => exact Strength.critical_le _
  | weak =>
    have hne := mt hp.critical.mp (hunacceptable (hq.weak.mp hstrength).1)
    revert hne
    cases (analyze p (some t)).strength <;> decide
  | moderate =>
    obtain ⟨haccepted, hsafe, hclasses⟩ := hq.moderate.mp hstrength
    rw [hp.moderate.mpr ⟨hunacceptable haccepted, hguessable hsafe, hclasses⟩]
    exact Strength.le_refl _
  | strong =>
    obtain ⟨haccepted, hsafe, hclasses⟩ := hq.strong.mp hstrength
    rw [hp.strong.mpr ⟨hunacceptable haccepted, hguessable hsafe, hclasses⟩]
    exact Strength.le_refl _

end Tightened

theorem score_of_not_inDictionary {p : Policy} {t : Text} (ht : t ≠ []) (h : ¬InDictionary p t) :
    (analyze p (some t)).score = gradeScore (analyze p (some t)).strength := by
  rw [analyze_examined p t ht h]

theorem score_tightened {p q : Policy} (h : p.TightenedTo q) {t : Text} (ht : t ≠ []) :
    (analyze q (some t)).score ≤ (analyze p (some t)).score := by
  by_cases hq : InDictionary q t
  · have hscore := (graded_of_ne_nil q ht).score_dictionary.mpr ⟨ht, hq⟩
    by_cases hp : InDictionary p t
    · have hscore' := (graded_of_ne_nil p ht).score_dictionary.mpr ⟨ht, hp⟩
      exact Int.le_of_eq (hscore.trans hscore'.symm)
    · rw [hscore, score_of_not_inDictionary ht hp]
      exact ten_le_gradeScore _
  · have hp := mt (inDictionary_tightened h) hq
    rw [score_of_not_inDictionary ht hp, score_of_not_inDictionary ht hq]
    exact gradeScore_le (strength_tightened h ht)

/-- A stricter policy never rates a password better, be it by score or by tier. -/
theorem analyze_tightened {p q : Policy} (h : p.TightenedTo q) (password : Option Text) :
    (analyze q password).score ≤ (analyze p password).score ∧
      (analyze q password).strength ≤ (analyze p password).strength := by
  match password with
  | none => exact ⟨Int.le_refl _, Strength.le_refl _⟩
  | some [] => exact ⟨Int.le_refl _, Strength.le_refl _⟩
  | some (c :: r) =>
    exact ⟨score_tightened h (List.cons_ne_nil c r), strength_tightened h (List.cons_ne_nil c r)⟩

/-- The second policy asks for more than the first recommends, and lists the word in the password. -/
theorem analyze_tightened_summer :
    let p : Policy := {}
    let q : Policy := { commonWords := "Summer" :: p.commonWords, minPasswordLength := 16 }
    p.TightenedTo q ∧
      (analyze q (some "!Summer-2024")).score ≤ (analyze p (some "!Summer-2024")).score ∧
      (analyze q (some "!Summer-2024")).strength ≤ (analyze p (some "!Summer-2024")).strength ∧
      (analyze p (some "!Summer-2024")).strength = .strong ∧
      (analyze q (some "!Summer-2024")).strength = .critical := by
  intro p q
  have h : p.TightenedTo q :=
    ⟨List.Subset.refl _, List.subset_cons_self _ _, by decide, by decide⟩
  obtain ⟨hscore, hstrength⟩ := analyze_tightened h (some "!Summer-2024")
  exact ⟨h, hscore, hstrength, by decide, by decide⟩

end Password
end ConfigAudit
