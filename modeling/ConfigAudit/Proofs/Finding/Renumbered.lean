import ConfigAudit.Finding.Kind
import Mathlib.Tactic.Common

/-! Issues of a configuration that stands further down in another one. Moving the line of a finding
changes its report only where the report names the line. -/
namespace ConfigAudit

namespace Text

/-- The number behind a leading `Line `, and the rest of the text behind that number. -/
def headLine? (t : Text) : Option (Nat × Text) :=
  let rest := t.drop "Line ".length
  let digits := rest.takeWhile Char.isDigit
  if t.startsWith "Line " ∧ digits ≠ [] then
    some (Nat.ofDigitChars 10 digits 0, rest.dropWhile Char.isDigit)
  else none

/-- Replaces a leading `Line k` by `Line k+n`. Any other text stays as it is. -/
def renumber (n : Nat) (t : Text) : Text :=
  match headLine? t with
  | some (k, rest) => "Line " ++ ofNat (k + n) ++ rest
  | none => t

theorem renumber_locate (n k : Nat) {rest : Text} (h : ∀ c ∈ rest.head?, c.isDigit = false) :
    renumber n (Line.locate k ++ rest) = Line.locate (k + n) ++ rest := by
  have hdigits : ∀ c ∈ ofNat k, c.isDigit := fun c hc =>
    Nat.isDigit_of_mem_toDigits (by decide) (by decide) hc
  have htake : (ofNat k ++ rest).takeWhile Char.isDigit = ofNat k := by
    rw [List.takeWhile_append_of_pos hdigits]
    cases rest with
    | nil => simp
    | cons c r => simp [h c rfl]
  have hdrop : (ofNat k ++ rest).dropWhile Char.isDigit = rest := by
    rw [List.dropWhile_append_of_pos hdigits]
    cases rest with
    | nil => rfl
    | cons c r => simp [h c rfl]
  have hbehind : (Line.locate k ++ rest).drop "Line ".length = ofNat k ++ rest := rfl
  have hhead : headLine? (Line.locate k ++ rest) = some (k, rest) := by
    simp only [headLine?, hbehind, htake, hdrop]
    rw [if_pos ⟨rfl, Nat.toDigits_ne_nil⟩, ofNat, Nat.ofDigitChars_ten_toDigits]
  rw [renumber, hhead]
  rfl

theorem renumber_of_head? (n : Nat) {t : Text} {c : Char} (h : t.head? = some c) (hc : c ≠ 'L') :
    renumber n t = t := by
  obtain ⟨r, rfl⟩ := List.head?_eq_some_iff.mp h
  have hstarts : Text.startsWith (c :: r) "Line " = false := by
    simp [startsWith, List.isPrefixOf, hc.symm]
  have hhead : headLine? (c :: r) = none :=
    if_neg fun hline => Bool.false_ne_true (hstarts.symm.trans hline.1)
  rw [renumber, hhead]

/-- Shows the first character of a literal without spelling out the rest of it. -/
theorem head?_ofList (c : Char) (r : List Char) :
    (String.ofList (c :: r) : Text).head? = some c := by
  rw [String.toList_ofList, List.head?_cons]

end Text

def Issue.renumber (n : Nat) (i : Issue) : Issue :=
  { i with location := i.location.renumber n, description := i.description.renumber n }

theorem Issue.renumber_severity (n : Nat) (i : Issue) : (i.renumber n).severity = i.severity := rfl

namespace Finding

/-- The line that a finding is about, if it is about one. -/
def line? : Finding → Option Int
  | weakCredential n _ | shortCredential n _ | plainEnablePassword n | telnet n | httpServer n
  | openVtyLine n _ | openInterface n _ | unusedInterface n _ => some n
  | absent _ => none

/-- The same finding some lines further down. -/
def moveBy (distance : Int) : Finding → Finding
  | weakCredential n credential => weakCredential (n + distance) credential
  | shortCredential n length => shortCredential (n + distance) length
  | plainEnablePassword n => plainEnablePassword (n + distance)
  | telnet n => telnet (n + distance)
  | httpServer n => httpServer (n + distance)
  | openVtyLine n range => openVtyLine (n + distance) range
  | openInterface n name => openInterface (n + distance) name
  | unusedInterface n name => unusedInterface (n + distance) name
  | absent directive => absent directive

/-- The report of a moved finding is the report of the finding with its line renumbered. -/
theorem issue_moveBy {f : Finding} (h : ∀ k ∈ f.line?, 0 ≤ k) (n : Nat) :
    (f.moveBy n).issue = f.issue.renumber n := by
  have hlocation (k : Nat) : (Line.locate k).renumber n = Line.locate (k + n) := by
    have hnothing : ∀ c ∈ ([] : Text).head?, c.isDigit = false := by simp
    simpa using Text.renumber_locate n k hnothing
  have hbrief (k : Nat) {told : Text} (htold : told.head? = some ':') :
      (Line.locate k ++ told).renumber n = Line.locate (k + n) ++ told :=
    Text.renumber_locate n k (by simp [htold])
  have hquoting (k : Nat) {told : Text} (quoted closing : Text) (htold : told.head? = some ':') :
      (Line.locate k ++ told ++ quoted ++ closing).renumber n =
        Line.locate (k + n) ++ told ++ quoted ++ closing := by
    have hquoted : (told ++ quoted ++ closing).head? = some ':' := by simp [htold]
    simpa using hbrief k hquoted
  have hunnamed {t : Text} {c : Char} (ht : t.head? = some c) (hc : c ≠ 'L') : t.renumber n = t :=
    Text.renumber_of_head? n ht hc
  have hnaming {t : Text} {c : Char} (quoted closing : Text) (ht : t.head? = some c)
      (hc : c ≠ 'L') : (t ++ quoted ++ closing).renumber n = t ++ quoted ++ closing :=
    Text.renumber_of_head? n (by simp [ht]) hc
  cases f with
  | absent directive =>
    cases directive <;>
      rw [moveBy, issue, bestPractice, Issue.renumber, hunnamed (Text.head?_ofList ..) (by decide),
        hunnamed (Text.head?_ofList ..) (by decide)]
  | weakCredential k credential =>
    obtain ⟨k, rfl⟩ := Int.eq_ofNat_of_zero_le (h k rfl)
    rw [moveBy, issue, issue, Issue.renumber, hlocation, hquoting k _ _ (Text.head?_ofList ..)]
  | shortCredential k length =>
    obtain ⟨k, rfl⟩ := Int.eq_ofNat_of_zero_le (h k rfl)
    rw [moveBy, issue, issue, Issue.renumber, hlocation, hquoting k _ _ (Text.head?_ofList ..)]
  | plainEnablePassword k | telnet k | httpServer k =>
    obtain ⟨k, rfl⟩ := Int.eq_ofNat_of_zero_le (h k rfl)
    rw [moveBy, issue, issue, Issue.renumber, hlocation, hbrief k (Text.head?_ofList ..)]
  | openVtyLine k name | openInterface k name | unusedInterface k name =>
    obtain ⟨k, rfl⟩ := Int.eq_ofNat_of_zero_le (h k rfl)
    rw [moveBy, issue, issue, Issue.renumber, hlocation,
      hnaming _ _ (Text.head?_ofList ..) (by decide)]

end Finding
end ConfigAudit
