import ConfigAudit.Proofs.Password.Tier
import ConfigAudit.Proofs.Text.Search

/-! When a password gets which tier, read off the password itself instead of off its findings. -/
namespace ConfigAudit.Password

section Conditions

variable (p : Policy) (t : Text)

/-- The dictionary has the password, whatever their case. -/
def InDictionary : Prop := ∃ entry ∈ p.weakPasswords, Text.lowercase t = Text.lowercase entry

/-- A password that is as good as none. -/
def Unacceptable : Prop := t = [] ∨ InDictionary p t ∨ (t.length : Int) < p.minPasswordLength

/-- The digits from 0 to 9 alone. -/
def OnlyDigits : Prop := ∀ c ∈ t, '0' ≤ c ∧ c ≤ '9'

/-- The letters from A to Z and from a to z alone. -/
def OnlyLetters : Prop := ∀ c ∈ t, ('A' ≤ c ∧ c ≤ 'Z') ∨ ('a' ≤ c ∧ c ≤ 'z')

/-- A password that could be guessed although it is not too short. -/
def Guessable : Prop :=
  (t.length : Int) < p.recommendedPasswordLength ∨ OnlyDigits t ∨ OnlyLetters t ∨
    ∃ word ∈ p.commonWords, Text.lowercase word <:+: Text.lowercase t

/-- Capitals, small letters, digits and other characters are all there. -/
def HasAllClasses : Prop :=
  (∃ c ∈ t, 'A' ≤ c ∧ c ≤ 'Z') ∧ (∃ c ∈ t, 'a' ≤ c ∧ c ≤ 'z') ∧ (∃ c ∈ t, '0' ≤ c ∧ c ≤ '9') ∧
    ∃ c ∈ t, ¬('A' ≤ c ∧ c ≤ 'Z') ∧ ¬('a' ≤ c ∧ c ≤ 'z') ∧ ¬('0' ≤ c ∧ c ≤ '9')

end Conditions

/-- What an analysis says about a password under a policy. -/
structure Graded (p : Policy) (t : Text) (a : PasswordAnalysis) : Prop where
  critical : a.strength = .critical ↔ Unacceptable p t
  weak : a.strength = .weak ↔ ¬Unacceptable p t ∧ Guessable p t
  moderate : a.strength = .moderate ↔ ¬Unacceptable p t ∧ ¬Guessable p t ∧ ¬HasAllClasses t
  strong : a.strength = .strong ↔ ¬Unacceptable p t ∧ ¬Guessable p t ∧ HasAllClasses t
  score_absent : a.score = 0 ↔ t = []
  score_dictionary : a.score = 10 ↔ t ≠ [] ∧ InDictionary p t
  score_critical : a.score = 20 ↔ a.strength = .critical ∧ t ≠ [] ∧ ¬InDictionary p t
  score_weak : a.score = 40 ↔ a.strength = .weak
  score_moderate : a.score = 70 ↔ a.strength = .moderate
  score_strong : a.score = 100 ↔ a.strength = .strong
  issues_eq_nil : a.issues = [] ↔ a.strength = .moderate ∨ a.strength = .strong
  critical_issue : (∃ i ∈ a.issues, i.severity = .critical) ↔ a.strength = .critical
  single_issue : a.score = 0 ∨ a.score = 10 → a.issues.length = 1

theorem isWeakPassword_iff (p : Policy) (t : Text) :
    p.isWeakPassword t false = true ↔ InDictionary p t := by
  simp [Policy.isWeakPassword, InDictionary]

theorem hasCommonWord_iff (p : Policy) (t : Text) :
    hasCommonWord p t = true ↔ ∃ word ∈ p.commonWords, Text.lowercase word <:+: Text.lowercase t := by
  simp only [hasCommonWord, List.any_eq_true, Text.includes_iff_infix]

theorem all_isDigit_iff (t : Text) : t.all Char.isDigit = true ↔ OnlyDigits t := by
  simp only [List.all_eq_true, isDigit_iff, OnlyDigits]

theorem all_isAlpha_iff (t : Text) : t.all Char.isAlpha = true ↔ OnlyLetters t := by
  simp only [List.all_eq_true, isAlpha_iff, OnlyLetters]

theorem isMixed_iff (t : Text) : isMixed t = true ↔ HasAllClasses t := by
  simp only [isMixed, HasAllClasses, Bool.and_eq_true, List.any_eq_true, isUpper_iff, isLower_iff,
    isDigit_iff, Bool.not_eq_true', ← Bool.not_eq_true, Bool.or_eq_true, isAlpha_iff, not_or,
    and_assoc]

section Findings

variable (p : Policy) (t : Text)

theorem mem_findings {f : PasswordFinding} :
    f ∈ findings p t ↔
      f ∈ lengthFindings p t ∨ (OnlyDigits t ∧ f = .onlyDigits) ∨
        (OnlyLetters t ∧ f = .onlyLetters) ∨
        ((∃ word ∈ p.commonWords, Text.lowercase word <:+: Text.lowercase t) ∧ f = .commonWord) := by
  simp only [findings, List.mem_append, List.mem_ite_nil_right, List.mem_singleton,
    all_isDigit_iff, all_isAlpha_iff, hasCommonWord_iff, or_assoc]

/-- Only a password that is too short has a critical finding. -/
theorem exists_critical_iff :
    (∃ f ∈ findings p t, f.severity = .critical) ↔ (t.length : Int) < p.minPasswordLength := by
  constructor
  · rintro ⟨f, hf, hcritical⟩
    rcases (mem_findings p t).mp hf with hlength | ⟨-, rfl⟩ | ⟨-, rfl⟩ | ⟨-, rfl⟩
    · unfold lengthFindings at hlength
      split_ifs at hlength with hshort hlong
      · exact hshort
      · rw [List.mem_singleton.mp hlength] at hcritical
        cases hcritical
      · cases hlength
    all_goals cases hcritical
  · intro hshort
    refine ⟨.tooShort t.length p.recommendedPasswordLength, (mem_findings p t).mpr (.inl ?_), rfl⟩
    rw [lengthFindings, if_pos hshort]
    exact List.mem_cons_self

/-- A password that is long enough is found fault with exactly if it could be guessed. -/
theorem exists_mem_findings_iff (hlength : ¬(t.length : Int) < p.minPasswordLength) :
    (∃ f, f ∈ findings p t) ↔ Guessable p t := by
  have hshort : (∃ f, f ∈ lengthFindings p t) ↔ (t.length : Int) < p.recommendedPasswordLength := by
    rw [lengthFindings, if_neg hlength]
    split_ifs with h <;> simp [h]
  simp only [mem_findings, exists_or, exists_and_left, exists_eq, and_true, hshort, Guessable]

theorem contains_severity {s : Severity} :
    ((findings p t).map (·.severity)).contains s = true ↔ ∃ f ∈ findings p t, f.severity = s := by
  rw [List.contains_iff_mem, List.mem_map]

theorem grade_of_short (hshort : (t.length : Int) < p.minPasswordLength) :
    grade p t ((findings p t).map (·.severity)) = .critical :=
  if_pos ((contains_severity p t).mpr ((exists_critical_iff p t).mpr hshort))

/-- Nothing but a critical or a high finding is made on a password. -/
theorem exists_high_iff (hlength : ¬(t.length : Int) < p.minPasswordLength) :
    (∃ f ∈ findings p t, f.severity = .high) ↔ Guessable p t := by
  rw [← exists_mem_findings_iff p t hlength]
  constructor
  · rintro ⟨f, hf, -⟩
    exact ⟨f, hf⟩
  · rintro ⟨f, hf⟩
    refine ⟨f, hf, f.severity_eq.resolve_left fun hcritical => ?_⟩
    exact hlength ((exists_critical_iff p t).mp ⟨f, hf, hcritical⟩)

theorem findings_eq_nil_iff :
    findings p t = [] ↔ ¬(t.length : Int) < p.minPasswordLength ∧ ¬Guessable p t := by
  rw [List.eq_nil_iff_forall_not_mem]
  constructor
  · intro hnone
    have hlength : ¬(t.length : Int) < p.minPasswordLength := fun hshort => by
      obtain ⟨f, hf, -⟩ := (exists_critical_iff p t).mpr hshort
      exact hnone f hf
    exact ⟨hlength, fun hguess => by
      obtain ⟨f, hf⟩ := (exists_mem_findings_iff p t hlength).mpr hguess
      exact hnone f hf⟩
  · rintro ⟨hlength, hguess⟩ f hf
    exact hguess ((exists_mem_findings_iff p t hlength).mp ⟨f, hf⟩)

theorem grade_of_guessable (hlength : ¬(t.length : Int) < p.minPasswordLength)
    (hguess : Guessable p t) : grade p t ((findings p t).map (·.severity)) = .weak := by
  have hcritical := mt (contains_severity p t).mp (mt (exists_critical_iff p t).mp hlength)
  have hhigh := (contains_severity p t).mpr ((exists_high_iff p t hlength).mpr hguess)
  rw [grade, if_neg hcritical, if_pos hhigh]

/-- A password without findings has the recommended length, so its characters decide. -/
theorem grade_of_sound (hlength : ¬(t.length : Int) < p.minPasswordLength)
    (hguess : ¬Guessable p t) :
    grade p t ((findings p t).map (·.severity)) = if isMixed t then .strong else .moderate := by
  have hcritical := mt (contains_severity p t).mp (mt (exists_critical_iff p t).mp hlength)
  have hhigh := mt (contains_severity p t).mp (mt (exists_high_iff p t hlength).mp hguess)
  have hlong : p.recommendedPasswordLength ≤ t.length := Int.not_lt.mp fun h => hguess (.inl h)
  rw [grade, if_neg hcritical, if_neg hhigh, if_pos hlong]

theorem analyze_listed (ht : t ≠ []) (hdictionary : InDictionary p t) :
    analyze p (some t) = ⟨.critical, 10, [(PasswordFinding.dictionary t).issue]⟩ := by
  have hweak := (isWeakPassword_iff p t).mpr hdictionary
  simp only [analyze, Option.getD_some, if_neg ht, if_pos hweak]

theorem analyze_examined (ht : t ≠ []) (hdictionary : ¬InDictionary p t) :
    analyze p (some t) =
      let strength := grade p t ((findings p t).map (·.severity))
      ⟨strength, gradeScore strength, (findings p t).map (·.issue)⟩ := by
  have hweak := mt (isWeakPassword_iff p t).mp hdictionary
  simp only [analyze, Option.getD_some, if_neg ht, if_neg hweak]

end Findings

theorem graded_nil (p : Policy) : Graded p [] (analyze p (some [])) := by
  have hanalyze : analyze p (some []) = ⟨.critical, 0, [PasswordFinding.absent.issue]⟩ := rfl
  have hsevere : PasswordFinding.absent.issue.severity = .critical := rfl
  rw [hanalyze]
  constructor <;> simp [Unacceptable, hsevere]

theorem graded_of_inDictionary {p : Policy} {t : Text} (ht : t ≠ []) (h : InDictionary p t) :
    Graded p t (analyze p (some t)) := by
  have hsevere : (PasswordFinding.dictionary t).issue.severity = .critical := rfl
  rw [analyze_listed p t ht h]
  constructor <;> simp [Unacceptable, ht, h, hsevere]

theorem graded_of_examined {p : Policy} {t : Text} (ht : t ≠ []) (h : ¬InDictionary p t) :
    Graded p t (analyze p (some t)) := by
  have hcritical : (∃ f ∈ findings p t, f.issue.severity = .critical) ↔
      (t.length : Int) < p.minPasswordLength := exists_critical_iff p t
  have hnil := findings_eq_nil_iff p t
  rw [analyze_examined p t ht h]
  by_cases hshort : (t.length : Int) < p.minPasswordLength
  · rw [grade_of_short p t hshort]
    constructor <;> simp [Unacceptable, gradeScore, ht, h, hshort, hcritical, hnil]
  by_cases hguess : Guessable p t
  · rw [grade_of_guessable p t hshort hguess]
    constructor <;> simp [Unacceptable, gradeScore, ht, h, hshort, hguess, hcritical, hnil]
  rw [grade_of_sound p t hshort hguess]
  by_cases hmixed : HasAllClasses t
  · rw [if_pos ((isMixed_iff t).mpr hmixed)]
    constructor <;> simp [Unacceptable, gradeScore, ht, h, hshort, hguess, hmixed, hcritical, hnil]
  · rw [if_neg (mt (isMixed_iff t).mp hmixed)]
    constructor <;> simp [Unacceptable, gradeScore, ht, h, hshort, hguess, hmixed, hcritical, hnil]

theorem graded_of_ne_nil (p : Policy) {t : Text} (ht : t ≠ []) : Graded p t (analyze p (some t)) := by
  by_cases h : InDictionary p t
  · exact graded_of_inDictionary ht h
  · exact graded_of_examined ht h

/-- The tier, the score and the issues of a password follow from its length, its characters and the
word lists alone. A strong one is long and mixed, since the grading never gets past its test of the
recommended length. -/
theorem analyze_graded (p : Policy) (password : Option Text) :
    let t := password.getD []
    Graded p t (analyze p password) ∧
      ((analyze p password).strength = .strong →
        p.minPasswordLength ≤ t.length ∧ p.recommendedPasswordLength ≤ t.length ∧
          HasAllClasses t) ∧
      (t ≠ [] → ¬InDictionary p t →
        (∀ f ∈ findings p t, f.severity ≠ .critical ∧ f.severity ≠ .high) →
        p.recommendedPasswordLength ≤ t.length) := by
  intro t
  have hgraded : Graded p t (analyze p password) := by
    have hanalyze : analyze p password = analyze p (some t) := rfl
    rw [hanalyze]
    by_cases ht : t = []
    · rw [ht]
      exact graded_nil p
    by_cases hdictionary : InDictionary p t
    · exact graded_of_inDictionary ht hdictionary
    · exact graded_of_examined ht hdictionary
  refine ⟨hgraded, fun hstrong => ?_, fun _ _ hharmless => ?_⟩
  · obtain ⟨haccepted, hguess, hclasses⟩ := hgraded.strong.mp hstrong
    exact ⟨Int.not_lt.mp fun hshort => haccepted (.inr (.inr hshort)),
      Int.not_lt.mp fun hshort => hguess (.inl hshort), hclasses⟩
  · by_contra hshorter
    by_cases hshort : (t.length : Int) < p.minPasswordLength
    · obtain ⟨f, hf, hcritical⟩ := (exists_critical_iff p t).mpr hshort
      exact (hharmless f hf).1 hcritical
    · obtain ⟨f, hf, hhigh⟩ := (exists_high_iff p t hshort).mpr (.inl (Int.not_le.mp hshorter))
      exact (hharmless f hf).2 hhigh

end ConfigAudit.Password
