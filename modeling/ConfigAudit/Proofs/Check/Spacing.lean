import ConfigAudit.Proofs.Check.Credential
import ConfigAudit.Proofs.Text.Spacing

/-! Blanks between the words of a credential line. The check finds its keywords by the space behind
them, but takes the words of a line apart at any blank. So other blanks than single spaces can hide
a credential, and they never add one. -/
namespace ConfigAudit

namespace Line

/-- A line with a space in place of every run of blanks. -/
def collapse (l : Line) : Line := { l with text := l.text.collapse }

theorem numberFrom_map (start : Int) (f : Text → Text) (lines : List Text) :
    numberFrom start (lines.map f) =
      (numberFrom start lines).map fun l => { l with text := f l.text } := by
  induction lines generalizing start with
  | nil => rfl
  | cons t r ih => rw [List.map_cons, numberFrom_cons, numberFrom_cons, ih, List.map_cons]

theorem ofText_singleSpaced (t : Text) : ofText t.singleSpaced = (ofText t).map collapse := by
  rw [ofText_eq, Text.lines_singleSpaced, numberFrom_map, ofText_eq]
  rfl

theorem isComment_collapse (l : Line) : l.collapse.isComment = l.isComment := by
  have hcollapse : ['!'] <+: l.text.collapse ↔ ['!'] <+: l.text := by
    rw [Text.cons_prefix_collapse_iff (by decide), List.cons_prefix_iff]
    simp only [List.nil_prefix]
  rw [Bool.eq_iff_iff, isComment, isComment, Text.startsWith, Text.startsWith,
    List.isPrefixOf_iff_prefix, List.isPrefixOf_iff_prefix]
  exact hcollapse

end Line

theorem append_eq_append_iff_of_sublist {α : Type} {a b c d : List α} (hab : a.Sublist b)
    (hcd : c.Sublist d) : b ++ d = a ++ c ↔ b = a ∧ d = c := by
  constructor
  · intro h
    have hlength := congrArg List.length h
    rw [List.length_append, List.length_append] at hlength
    have hb := hab.length_le
    have hd := hcd.length_le
    exact ⟨(hab.eq_of_length_le (by omega)).symm, (hcd.eq_of_length_le (by omega)).symm⟩
  · rintro ⟨rfl, rfl⟩
    rfl

/-- Lists that only grow do not grow at all if their concatenation does not. -/
theorem flatMap_eq_flatMap_iff_of_sublist {α β : Type} {f g : α → List β} {l : List α}
    (h : ∀ x ∈ l, (g x).Sublist (f x)) : l.flatMap f = l.flatMap g ↔ ∀ x ∈ l, f x = g x := by
  induction l with
  | nil => simp
  | cons x r ih =>
    obtain ⟨hx, hr⟩ := List.forall_mem_cons.mp h
    rw [List.flatMap_cons, List.flatMap_cons, List.forall_mem_cons, ← ih hr]
    exact append_eq_append_iff_of_sublist hx (List.Sublist.flatMap_right r hr)

namespace Check

/-- The keyword of a credential stands on a line with some blank behind it. -/
def SpacedCredential (t : Text) : Prop :=
  ∃ c, Text.isBlank c = true ∧ (("password" ++ [c] : Text) <+: t ∨ ("secret" ++ [c] : Text) <:+: t)

/-- The keywords of an unencrypted password stand on a line with blanks between and behind them. -/
def SpacedEnablePassword (t : Text) : Prop :=
  ∃ c r, Text.isBlank c = true ∧ t = "enable" ++ c :: r ∧
    ∃ d, Text.isBlank d = true ∧ ("password" ++ [d] : Text) <+: r.dropWhile Text.isBlank

/-- A line hides its credential from the check: the blank behind the keyword is no space, while what
is read as the credential deserves a finding. -/
structure HidesCredential (p : Policy) (l : Line) : Prop where
  spaced : SpacedCredential l.text
  unnamed : ¬(("password " : Text) <+: l.text ∨ ("secret " : Text) <:+: l.text)
  ne_nil : credential p.keywordCredentials l.text ≠ []
  unmarked : '!' ∉ credential p.keywordCredentials l.text
  charged : ∃ f, Charges p l (credential p.keywordCredentials l.text) f

/-- A line hides an unencrypted password: the blanks at its keywords are not single spaces. -/
structure HidesEnablePassword (l : Line) : Prop where
  spaced : SpacedEnablePassword l.text
  unnamed : ¬("enable password " : Text) <+: l.text

theorem credential_collapse (afterKeyword : Bool) (t : Text) :
    credential afterKeyword t.collapse = credential afterKeyword t := by
  rw [credential, credential, wordAt, wordAt, Text.words_collapse]

theorem named_collapse_iff (t : Text) :
    ("password " : Text) <+: t.collapse ∨ ("secret " : Text) <:+: t.collapse ↔
      SpacedCredential t := by
  have hpassword := Text.prefix_collapse_iff (w := "password") (t := t) (by simp [Text.isBlank])
  have hsecret := Text.infix_collapse_iff (w := "secret") (t := t) (by simp [Text.isBlank])
    (by decide)
  rw [SpacedCredential]
  simp only [and_or_left, exists_or]
  exact or_congr hpassword hsecret

theorem enablePassword_collapse_iff (t : Text) :
    ("enable password " : Text) <+: t.collapse ↔ SpacedEnablePassword t := by
  have hphrase : ("enable password " : Text) = "enable" ++ ' ' :: ("password" ++ [' ']) := rfl
  rw [hphrase, Text.append_prefix_collapse_iff (by simp [Text.isBlank]), SpacedEnablePassword]
  simp only [Text.space_cons_prefix_collapse_iff,
    Text.prefix_collapse_iff (w := "password") (by simp [Text.isBlank])]
  constructor
  · rintro ⟨_, rfl, c, r, hc, rfl, hpassword⟩
    exact ⟨c, r, hc, rfl, hpassword⟩
  · rintro ⟨c, r, hc, rfl, hpassword⟩
    exact ⟨c :: r, rfl, c, r, hc, rfl, hpassword⟩

theorem startsWith_enablePassword_collapse {t : Text}
    (h : t.startsWith "enable password " = true) :
    t.collapse.startsWith "enable password " = true := by
  obtain ⟨rest, rfl⟩ := List.isPrefixOf_iff_prefix.mp h
  rw [Text.startsWith, List.isPrefixOf_iff_prefix, enablePassword_collapse_iff]
  exact ⟨' ', "password " ++ rest, Text.isBlank_space, rfl, ' ', Text.isBlank_space, rest, rfl⟩

theorem namesCredential_collapse {t : Text} (h : namesCredential t = true) :
    namesCredential t.collapse = true := by
  rw [namesCredential_iff, named_collapse_iff]
  exact ⟨' ', Text.isBlank_space, namesCredential_iff.mp h⟩

/-- A line shows what it shows with single spaces, or nothing. -/
theorem credentialFindings_eq (p : Policy) (l : Line) :
    credentialFindings p l =
      if namesCredential l.text then credentialFindings p l.collapse else [] := by
  by_cases hnamed : namesCredential l.text = true
  · simp only [credentialFindings, Line.collapse, credential_collapse, hnamed,
      namesCredential_collapse hnamed, if_true]
  · simp only [credentialFindings, hnamed, Bool.false_and, Bool.false_eq_true, if_false]

theorem enablePasswordFindings_eq (l : Line) :
    enablePasswordFindings l =
      if l.text.startsWith "enable password " then enablePasswordFindings l.collapse else [] := by
  by_cases hnamed : l.text.startsWith "enable password " = true
  · simp only [enablePasswordFindings, Line.collapse, hnamed,
      startsWith_enablePassword_collapse hnamed, if_true]
  · simp only [enablePasswordFindings, hnamed, Bool.false_eq_true, if_false]

/-- What is shown on a condition is all there is unless the condition fails and hides something. -/
theorem eq_ite_nil_iff {c : Prop} [Decidable c] {l : List Finding} :
    l = (if c then l else []) ↔ ¬(¬c ∧ l ≠ []) := by
  by_cases hc : c <;> simp [hc]

theorem ite_nil_sublist (c : Prop) [Decidable c] (l : List Finding) :
    (if c then l else []).Sublist l := by
  simpa using ite_sublist_ite (c := c) (d := True) (fun _ => trivial) (List.Sublist.refl l)

theorem credentialFindings_sublist (p : Policy) (l : Line) :
    (credentialFindings p l).Sublist (credentialFindings p l.collapse) := by
  rw [credentialFindings_eq p l]
  exact ite_nil_sublist _ _

theorem enablePasswordFindings_sublist (l : Line) :
    (enablePasswordFindings l).Sublist (enablePasswordFindings l.collapse) := by
  rw [enablePasswordFindings_eq l]
  exact ite_nil_sublist _ _

/-- Single spaces change what is found just on the lines that hide their credential. -/
theorem credentialFindings_collapse_eq_iff {p : Policy} {l : Line}
    (hl : ¬(p.skipCommentLines = true ∧ l.isComment = true)) :
    credentialFindings p l.collapse = credentialFindings p l ↔ ¬HidesCredential p l := by
  have hcollapsed : ¬(p.skipCommentLines = true ∧ l.collapse.isComment = true) := by
    rwa [Line.isComment_collapse]
  rw [credentialFindings_eq p l, eq_ite_nil_iff, namesCredential_iff]
  refine not_congr ⟨?_, fun h => ⟨h.unnamed, ?_⟩⟩
  · rintro ⟨hunnamed, hfound⟩
    obtain ⟨f, hf⟩ := List.exists_mem_of_ne_nil _ hfound
    obtain ⟨c, hjudges, hcharges⟩ := (mem_credentialFindings_iff hcollapsed).mp hf
    have hcredential : credential p.keywordCredentials l.text = c := by
      rw [← hjudges.credential_eq, Line.collapse, credential_collapse]
    obtain rfl := hcredential
    exact ⟨(named_collapse_iff l.text).mp hjudges.named, hunnamed, hjudges.ne_nil,
      hjudges.unmarked, f, hcharges⟩
  · obtain ⟨f, hcharges⟩ := h.charged
    refine List.ne_nil_of_mem ((mem_credentialFindings_iff hcollapsed).mpr ⟨_, ?_, hcharges⟩)
    exact ⟨hcollapsed, (named_collapse_iff l.text).mpr h.spaced, credential_collapse _ _, h.ne_nil,
      h.unmarked⟩

theorem enablePasswordFindings_collapse_eq_iff {l : Line} :
    enablePasswordFindings l.collapse = enablePasswordFindings l ↔ ¬HidesEnablePassword l := by
  have hshown : enablePasswordFindings l.collapse ≠ [] ↔ SpacedEnablePassword l.text := by
    rw [← enablePassword_collapse_iff, ← List.isPrefixOf_iff_prefix, enablePasswordFindings,
      ite_ne_right_iff]
    exact and_iff_left (List.cons_ne_nil _ [])
  rw [enablePasswordFindings_eq l, eq_ite_nil_iff, hshown, Text.startsWith,
    List.isPrefixOf_iff_prefix]
  exact not_congr ⟨fun h => ⟨h.2, h.1⟩, fun h => ⟨h.unnamed, h.spaced⟩⟩

theorem judged_map_collapse (p : Policy) (lines : List Line) :
    judged p (lines.map Line.collapse) = (judged p lines).map Line.collapse := by
  rw [judged, List.filter_map]
  simp only [Function.comp_def, Line.isComment_collapse, judged]

/-- Single spaces in place of other blanks take no finding away. They add none exactly if no line
that is looked at hides a credential or an unencrypted password behind its blanks. -/
theorem weakPasswords_singleSpaced (p : Policy) (t : Text) :
    (weakPasswords p (Line.ofText t)).Sublist (weakPasswords p (Line.ofText t.singleSpaced)) ∧
    (weakPasswords p (Line.ofText t.singleSpaced) = weakPasswords p (Line.ofText t) ↔
      ∀ l ∈ judged p (Line.ofText t), ¬HidesCredential p l ∧ ¬HidesEnablePassword l) := by
  have hline (l : Line) : (credentialFindings p l ++ enablePasswordFindings l).Sublist
      (credentialFindings p l.collapse ++ enablePasswordFindings l.collapse) :=
    (credentialFindings_sublist p l).append (enablePasswordFindings_sublist l)
  rw [weakPasswords, weakPasswords, Line.ofText_singleSpaced, judged_map_collapse,
    List.flatMap_map]
  refine ⟨List.Sublist.flatMap_right _ fun l _ => hline l, ?_⟩
  rw [flatMap_eq_flatMap_iff_of_sublist fun l _ => hline l]
  refine forall₂_congr fun l hl => ?_
  rw [append_eq_append_iff_of_sublist (credentialFindings_sublist p l)
      (enablePasswordFindings_sublist l),
    credentialFindings_collapse_eq_iff (mem_judged_iff.mp hl).2,
    enablePasswordFindings_collapse_eq_iff]

/-- A tab behind the keyword hides a credential that is weak and too short. -/
theorem weakPasswords_hidden_behind_tab :
    Text.singleSpaced "password\tcisco" = "password cisco" ∧
    weakPasswords {} (Line.ofText "password\tcisco") = [] ∧
    weakPasswords {} (Line.ofText "password cisco") =
      [.weakCredential 1 "cisco", .shortCredential 1 5] ∧
    ¬∀ (p : Policy) (t : Text),
      weakPasswords p (Line.ofText t.singleSpaced) = weakPasswords p (Line.ofText t) := by
  have hspaced : Text.singleSpaced "password\tcisco" = "password cisco" := by decide
  have hhidden : weakPasswords {} (Line.ofText "password\tcisco") = [] := by decide
  have hshown : weakPasswords {} (Line.ofText "password cisco") =
      [.weakCredential 1 "cisco", .shortCredential 1 5] := by decide
  refine ⟨hspaced, hhidden, hshown, fun hsame => ?_⟩
  have hequal := hsame {} "password\tcisco"
  rw [hspaced, hhidden, hshown] at hequal
  cases hequal

end Check
end ConfigAudit
