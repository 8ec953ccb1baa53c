import ConfigAudit.Proofs.Password.Grading
import ConfigAudit.Proofs.Text.Lowercase

/-! Passwords that differ in the case of ASCII letters. The word lists ignore case, and length, digits
and letters do not depend on it, so all findings are the same. Only whether a password without
findings is mixed can change. -/
namespace ConfigAudit.Password

/-- What is found the same on two spellings of a password. -/
structure SameFaults (t u : Text) (a b : PasswordAnalysis) : Prop where
  length : a.issues.length = b.issues.length
  severities : a.issues.map (·.severity) = b.issues.map (·.severity)
  /-- The one title that differs quotes the password. -/
  titles : a.issues.map (·.title) = b.issues.map (·.title) ∨
    a.issues.map (·.title) = [(PasswordFinding.dictionary t).title] ∧
      b.issues.map (·.title) = [(PasswordFinding.dictionary u).title]
  score : a.score = b.score ∨ 70 ≤ a.score ∧ 70 ≤ b.score

theorem isDigit_lowerCode :
    ∀ n < 0x80, (Char.ofNat (Text.lowerCode n)).isDigit = (Char.ofNat n).isDigit := by
  decide

theorem isAlpha_lowerCode :
    ∀ n < 0x80, (Char.ofNat (Text.lowerCode n)).isAlpha = (Char.ofNat n).isAlpha := by
  decide

/-- Passwords without findings differ in their tiers at most, and both tiers are good ones. -/
theorem gradeScore_grade_of_length_eq (p : Policy) {t u : Text} (h : t.length = u.length)
    (severities : List Severity) :
    gradeScore (grade p t severities) = gradeScore (grade p u severities) ∨
      70 ≤ gradeScore (grade p t severities) ∧ 70 ≤ gradeScore (grade p u severities) := by
  unfold grade
  rw [h]
  by_cases hcritical : severities.contains .critical = true
  · rw [if_pos hcritical, if_pos hcritical]
    exact .inl rfl
  rw [if_neg hcritical, if_neg hcritical]
  by_cases hhigh : severities.contains .high = true
  · rw [if_pos hhigh, if_pos hhigh]
    exact .inl rfl
  rw [if_neg hhigh, if_neg hhigh]
  right
  split_ifs <;> decide

section Recased

variable (p : Policy) {t u : Text} (ht : t.IsAscii) (hu : u.IsAscii)
  (h : Text.lowercase t = Text.lowercase u)

include h in
theorem inDictionary_recased : InDictionary p t ↔ InDictionary p u := by
  rw [InDictionary, h, InDictionary]

include ht hu h

theorem length_recased : t.length = u.length := by
  rw [← Text.length_lowercase_of_isAscii ht, h, Text.length_lowercase_of_isAscii hu]

theorem all_recased {f : Char → Bool}
    (hf : ∀ n < 0x80, f (Char.ofNat (Text.lowerCode n)) = f (Char.ofNat n)) : t.all f = u.all f := by
  rw [← Text.all_lowercase_of_isAscii ht hf, h, Text.all_lowercase_of_isAscii hu hf]

theorem findings_recased : findings p t = findings p u := by
  have hlength : lengthFindings p t = lengthFindings p u := by
    unfold lengthFindings
    rw [length_recased ht hu h]
  have hcommon : hasCommonWord p t = hasCommonWord p u := by
    unfold hasCommonWord
    rw [h]
  rw [findings, findings, hlength, hcommon, all_recased ht hu h isDigit_lowerCode,
    all_recased ht hu h isAlpha_lowerCode]

/-- No change of case hides a fault of a password, whatever the word lists hold. -/
theorem analyze_recased :
    p.isWeakPassword t false = p.isWeakPassword u false ∧
      SameFaults t u (analyze p (some t)) (analyze p (some u)) := by
  have hdictionary := inDictionary_recased p h
  have hlength := length_recased ht hu h
  have hweak : p.isWeakPassword t false = p.isWeakPassword u false := by
    rw [Bool.eq_iff_iff, isWeakPassword_iff, isWeakPassword_iff, hdictionary]
  refine ⟨hweak, ?_⟩
  by_cases hempty : t = []
  · obtain rfl : u = [] := by
      rw [hempty] at hlength
      exact List.eq_nil_of_length_eq_zero hlength.symm
    rw [hempty]
    exact ⟨rfl, rfl, .inl rfl, .inl rfl⟩
  have hnonempty : u ≠ [] := by
    rintro rfl
    exact hempty (List.eq_nil_of_length_eq_zero hlength)
  by_cases hlisted : InDictionary p t
  · rw [analyze_listed p t hempty hlisted, analyze_listed p u hnonempty (hdictionary.mp hlisted)]
    exact ⟨rfl, rfl, .inr ⟨rfl, rfl⟩, .inl rfl⟩
  · rw [analyze_examined p t hempty hlisted,
      analyze_examined p u hnonempty (mt hdictionary.mpr hlisted), findings_recased p ht hu h]
    exact ⟨rfl, rfl, .inl rfl, gradeScore_grade_of_length_eq p hlength _⟩

end Recased

/-- Without its capital the password is no longer mixed. The Kelvin sign in the dictionary has a
small letter of ASCII. -/
theorem analyze_recased_breeze :
    let p : Policy := { weakPasswords := ["\u212Aiwi"] }
    Text.IsAscii "Kiwi-Breeze-42" ∧ Text.IsAscii "kiwi-breeze-42" ∧
      Text.lowercase "Kiwi-Breeze-42" = Text.lowercase "kiwi-breeze-42" ∧
      SameFaults "Kiwi-Breeze-42" "kiwi-breeze-42" (analyze p (some "Kiwi-Breeze-42"))
        (analyze p (some "kiwi-breeze-42")) ∧
      (analyze p (some "Kiwi-Breeze-42")).score = 100 ∧
      (analyze p (some "kiwi-breeze-42")).score = 70 ∧
      p.isWeakPassword "KIWI" false = true := by
  intro p
  have ht : Text.IsAscii "Kiwi-Breeze-42" := by decide
  have hu : Text.IsAscii "kiwi-breeze-42" := by decide
  have h : Text.lowercase "Kiwi-Breeze-42" = Text.lowercase "kiwi-breeze-42" := by decide
  have hlisted : p.isWeakPassword "kiwi" false = true := by decide
  exact ⟨ht, hu, h, (analyze_recased p ht hu h).2, by decide, by decide,
    (analyze_recased p (by decide) (by decide) (by decide)).1.trans hlisted⟩

end ConfigAudit.Password
