import ConfigAudit.Proofs.Check.Distinct
import ConfigAudit.Proofs.Check.Lenient
import ConfigAudit.Proofs.Password.Grading

/-! Credentials on lines. The check reports on a line what is wrong with the credential that it reads
there. Main statement: this is wrong just with the credentials that are rated critical as passwords,
as far as the check, too, ignores the case of weak ones. -/
namespace ConfigAudit

theorem Line.eq_of_number_eq {t : Text} {l m : Line} (hl : l ∈ ofText t) (hm : m ∈ ofText t)
    (h : l.number = m.number) : l = m := by
  obtain ⟨i, hi, hnumber⟩ := mem_ofText_iff.mp hl
  obtain ⟨j, hj, hnumber'⟩ := mem_ofText_iff.mp hm
  obtain rfl : i = j := by omega
  have htext : l.text = m.text := Option.some.inj (hi.symm.trans hj)
  cases l
  cases m
  simp_all

/-- A weak password is a word of the dictionary, whether or not case counts. -/
theorem Policy.inDictionary_of_isWeakPassword {p : Policy} {c : Text} {caseSensitive : Bool}
    (h : p.isWeakPassword c caseSensitive = true) : Password.InDictionary p c := by
  rw [← Password.isWeakPassword_iff]
  cases caseSensitive with
  | false => exact h
  | true => exact isWeakPassword_of_caseSensitive h

namespace Check

/-- The check judges a credential on a line: it looks at the line, a keyword stands there, and what
is read as the credential is neither missing nor a placeholder. -/
structure Judges (p : Policy) (l : Line) (c : Text) : Prop where
  unskipped : ¬(p.skipCommentLines = true ∧ l.isComment = true)
  named : ("password " : Text) <+: l.text ∨ ("secret " : Text) <:+: l.text
  credential_eq : credential p.keywordCredentials l.text = c
  ne_nil : c ≠ []
  unmarked : '!' ∉ c

/-- What the check has to say against a credential on a line. -/
def Charges (p : Policy) (l : Line) (c : Text) (f : Finding) : Prop :=
  (p.isWeakPassword c p.weakPasswordCaseSensitive = true ∧ f = .weakCredential l.number c) ∨
    ((c.length : Int) < p.minPasswordLength ∧ f = .shortCredential l.number c.length)

theorem namesCredential_iff {t : Text} :
    namesCredential t = true ↔ ("password " : Text) <+: t ∨ ("secret " : Text) <:+: t := by
  rw [namesCredential, Bool.or_eq_true, Text.includes_iff_infix, Text.startsWith,
    List.isPrefixOf_iff_prefix]

theorem mem_judged_iff {p : Policy} {lines : List Line} {l : Line} :
    l ∈ judged p lines ↔ l ∈ lines ∧ ¬(p.skipCommentLines = true ∧ l.isComment = true) := by
  rw [judged, List.mem_filter, Bool.not_eq_true', ← Bool.not_eq_true, Bool.and_eq_true]

theorem mem_credentialFindings_iff {p : Policy} {l : Line} {f : Finding}
    (hl : ¬(p.skipCommentLines = true ∧ l.isComment = true)) :
    f ∈ credentialFindings p l ↔ ∃ c, Judges p l c ∧ Charges p l c f := by
  have hmark (c : Text) : c.includes "!" = false ↔ '!' ∉ c := by
    rw [← Bool.not_eq_true, Text.includes_iff_infix]
    exact not_congr (List.singleton_infix_iff '!' c)
  unfold credentialFindings
  dsimp only
  rw [List.mem_ite_nil_right, List.mem_append, List.mem_ite_nil_right, List.mem_ite_nil_right,
    List.mem_singleton, List.mem_singleton]
  simp only [Bool.and_eq_true, namesCredential_iff, decide_eq_true_eq, Bool.not_eq_true', hmark]
  constructor
  · rintro ⟨⟨⟨hnamed, hne⟩, hunmarked⟩, hcharges⟩
    exact ⟨_, ⟨hl, hnamed, rfl, hne, hunmarked⟩, hcharges⟩
  · rintro ⟨c, hjudges, hcharges⟩
    obtain ⟨-, hnamed, rfl, hne, hunmarked⟩ := hjudges
    exact ⟨⟨⟨hnamed, hne⟩, hunmarked⟩, hcharges⟩

theorem mem_weakPasswords_iff {p : Policy} {lines : List Line} {f : Finding} :
    f ∈ weakPasswords p lines ↔ ∃ l ∈ judged p lines,
      (∃ c, Judges p l c ∧ Charges p l c f) ∨ f ∈ enablePasswordFindings l := by
  rw [weakPasswords, List.mem_flatMap]
  refine exists_congr fun l => and_congr_right fun hl => ?_
  rw [List.mem_append, mem_credentialFindings_iff (mem_judged_iff.mp hl).2]

section Reported

variable {p : Policy} {t : Text} {l : Line} (hl : l ∈ Line.ofText t)
include hl

/-- An issue on a line is a charge against its credential or about the `enable password` there. -/
theorem exists_charge_of_reports {i : Issue} (hi : Reports "weak_passwords" p t i)
    (hlocation : i.location = l.location) :
    ∃ f : Finding, f.issue = i ∧ f.line? = some l.number ∧
      ((∃ c, Judges p l c ∧ Charges p l c f) ∨ f = .plainEnablePassword l.number) := by
  obtain ⟨f, hf, rfl⟩ := (reports_weakPasswords_iff p t i).mp hi
  obtain ⟨m, hm, hfound⟩ := mem_weakPasswords_iff.mp hf
  have hline : f.line? = some l.number := Finding.location_eq_locate_iff.mp hlocation
  have hnumber : f.line? = some m.number := by
    rcases hfound with ⟨c, -, ⟨-, rfl⟩ | ⟨-, rfl⟩⟩ | henable
    · rfl
    · rfl
    · exact line?_of_mem_ite henable rfl
  obtain rfl : m = l :=
    Line.eq_of_number_eq (mem_judged_iff.mp hm).1 hl (Option.some.inj (hnumber.symm.trans hline))
  exact ⟨f, rfl, hline, hfound.imp_right eq_of_mem_ite⟩

theorem reports_of_charges {c : Text} {f : Finding} (hc : Judges p l c) (hf : Charges p l c f) :
    Reports "weak_passwords" p t f.issue := by
  have hjudged := mem_judged_iff.mpr ⟨hl, hc.unskipped⟩
  exact (reports_weakPasswords_iff p t _).mpr
    ⟨f, mem_weakPasswords_iff.mpr ⟨l, hjudged, .inl ⟨c, hc, hf⟩⟩, rfl⟩

/-- The title names the weak credential. -/
theorem judges_of_weak_title {i : Issue} (hi : Reports "weak_passwords" p t i)
    (hlocation : i.location = l.location) {c : Text}
    (htitle : i.title = "Weak password detected: \"" ++ c ++ "\"") :
    Judges p l c ∧ p.isWeakPassword c p.weakPasswordCaseSensitive = true := by
  obtain ⟨f, rfl, hline, hfound⟩ := exists_charge_of_reports hl hi hlocation
  have htopic : f.topic? = some .weakCredential :=
    Finding.topic?_eq_of_title (hline ▸ nofun) htitle rfl
  rcases hfound with ⟨x, hjudges, ⟨hweak, rfl⟩ | ⟨-, rfl⟩⟩ | rfl
  · obtain rfl : x = c := List.append_cancel_left (List.append_cancel_right htitle)
    exact ⟨hjudges, hweak⟩
  · cases htopic
  · cases htopic

theorem judges_of_short_title {i : Issue} (hi : Reports "weak_passwords" p t i)
    (hlocation : i.location = l.location) (htitle : i.title = "Password too short") :
    ∃ c, Judges p l c ∧ (c.length : Int) < p.minPasswordLength ∧
      i = (Finding.shortCredential l.number c.length).issue := by
  obtain ⟨f, rfl, hline, hfound⟩ := exists_charge_of_reports hl hi hlocation
  have htopic : f.topic? = some .shortCredential :=
    Finding.topic?_eq_of_title (hline ▸ nofun) htitle rfl
  rcases hfound with ⟨c, hjudges, ⟨-, rfl⟩ | ⟨hshort, rfl⟩⟩ | rfl
  · cases htopic
  · exact ⟨c, hjudges, hshort, rfl⟩
  · cases htopic

theorem Judges.reports_weak_iff {c : Text} (hc : Judges p l c) :
    Reports "weak_passwords" p t (Finding.weakCredential l.number c).issue ↔
      p.isWeakPassword c p.weakPasswordCaseSensitive = true := by
  constructor
  · intro hreports
    exact (judges_of_weak_title hl hreports rfl rfl).2
  · intro hweak
    exact reports_of_charges hl hc (.inl ⟨hweak, rfl⟩)

theorem Judges.reports_short_iff {c : Text} (hc : Judges p l c) :
    Reports "weak_passwords" p t (Finding.shortCredential l.number c.length).issue ↔
      (c.length : Int) < p.minPasswordLength := by
  constructor
  · intro hreports
    obtain ⟨x, hx, hshort, -⟩ := judges_of_short_title hl hreports rfl rfl
    rwa [← hc.credential_eq, hx.credential_eq]
  · intro hshort
    exact reports_of_charges hl hc (.inr ⟨hshort, rfl⟩)

end Reported

/-- A credential that is reported as weak or as too short is critical as a password, and a weak one
is found in the dictionary there, too. Conversely, each critical credential is reported where the
case of weak passwords is ignored. -/
theorem weakPasswords_agrees_analyze (p : Policy) {t : Text} {l : Line} (hl : l ∈ Line.ofText t) :
    (∀ i, Reports "weak_passwords" p t i → i.location = l.location →
      (∀ c : Text, i.title = "Weak password detected: \"" ++ c ++ "\"" →
        Judges p l c ∧ (Password.analyze p (some c)).strength = .critical ∧
          (Password.analyze p (some c)).score = 10 ∧
          (Password.analyze p (some c)).issues.length = 1) ∧
      (i.title = "Password too short" →
        ∃ c, Judges p l c ∧ i = (Finding.shortCredential l.number c.length).issue ∧
          (Password.analyze p (some c)).strength = .critical)) ∧
    (p.weakPasswordCaseSensitive = false →
      ∀ c, Judges p l c → (Password.analyze p (some c)).strength = .critical →
        Reports "weak_passwords" p t (Finding.weakCredential l.number c).issue ∨
          Reports "weak_passwords" p t (Finding.shortCredential l.number c.length).issue) := by
  refine ⟨fun i hi hlocation => ⟨fun c htitle => ?_, fun htitle => ?_⟩, fun hcase c hc hcritical => ?_⟩
  · obtain ⟨hc, hweak⟩ := judges_of_weak_title hl hi hlocation htitle
    have hgraded := Password.graded_of_ne_nil p hc.ne_nil
    have hdictionary := Policy.inDictionary_of_isWeakPassword hweak
    have hscore := hgraded.score_dictionary.mpr ⟨hc.ne_nil, hdictionary⟩
    exact ⟨hc, hgraded.critical.mpr (.inr (.inl hdictionary)), hscore,
      hgraded.single_issue (.inr hscore)⟩
  · obtain ⟨c, hc, hshort, hissue⟩ := judges_of_short_title hl hi hlocation htitle
    have hgraded := Password.graded_of_ne_nil p hc.ne_nil
    exact ⟨c, hc, hissue, hgraded.critical.mpr (.inr (.inr hshort))⟩
  · rcases (Password.graded_of_ne_nil p hc.ne_nil).critical.mp hcritical with hnil | hdictionary | hshort
    · exact absurd hnil hc.ne_nil
    · refine .inl ((hc.reports_weak_iff hl).mpr ?_)
      rw [hcase]
      exact (Password.isWeakPassword_iff p c).mpr hdictionary
    · exact .inr ((hc.reports_short_iff hl).mpr hshort)

theorem weakPasswords_agrees_analyze_cisco :
    (⟨1, "password cisco"⟩ : Line) ∈ Line.ofText "password cisco" ∧
    Reports "weak_passwords" {} "password cisco" (Finding.weakCredential 1 "cisco").issue ∧
    (Password.analyze {} (some "cisco")).strength = .critical ∧
    (Password.analyze {} (some "cisco")).score = 10 ∧
    (Password.analyze {} (some "cisco")).issues.length = 1 ∧
    (Reports "weak_passwords" {} "password cisco" (Finding.weakCredential 1 "cisco").issue ∨
      Reports "weak_passwords" {} "password cisco" (Finding.shortCredential 1 5).issue) := by
  have hl : (⟨1, "password cisco"⟩ : Line) ∈ Line.ofText "password cisco" := by decide
  have hfound : Finding.weakCredential 1 "cisco" ∈
    weakPasswords {} (Line.ofText "password cisco") := by decide
  have hreports := (reports_weakPasswords_iff {} _ _).mpr ⟨_, hfound, rfl⟩
  obtain ⟨hcritical, hreported⟩ := weakPasswords_agrees_analyze {} hl
  obtain ⟨hjudges, hstrength, hscore, hissues⟩ := (hcritical _ hreports rfl).1 "cisco" rfl
  exact ⟨hl, hreports, hstrength, hscore, hissues, hreported rfl _ hjudges hstrength⟩

end Check
end ConfigAudit
