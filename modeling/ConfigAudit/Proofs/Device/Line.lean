import ConfigAudit.Device.Line
import ConfigAudit.Proofs.Text.Split

/-! The lines of a text. Their numbers run from one without a gap, and a text that is joined at a
line feed has the lines of its parts. -/
namespace ConfigAudit

namespace Text

/-- The stripped lines of a text, of which there is at least one. -/
def lines (t : Text) : List Text := (t.split '\n').map strip

theorem split_ne_nil (separator : Char) (t : Text) : t.split separator ≠ [] := by
  cases t with
  | nil => simp [split]
  | cons c r =>
    unfold split
    split
    · simp
    · cases h : split separator r with
      | nil => exact absurd h (split_ne_nil separator r)
      | cons head tail => simp

theorem split_append_cons (separator : Char) (a b : Text) :
    (a ++ separator :: b).split separator = a.split separator ++ b.split separator := by
  induction a with
  | nil => simp [split]
  | cons c r ih =>
    rw [List.cons_append, split, split, ih]
    split
    · rfl
    · cases h : split separator r with
      | nil => exact absurd h (split_ne_nil separator r)
      | cons head tail => rfl

theorem lines_append_cons (a b : Text) : (a ++ '\n' :: b).lines = a.lines ++ b.lines := by
  rw [lines, split_append_cons, List.map_append, lines, lines]

/-- A blank text is one whose lines are all empty. -/
theorem strip_eq_nil_iff_lines {t : Text} : t.strip = [] ↔ ∀ line ∈ t.lines, line = [] := by
  have hjoined := join_blank_iff (by decide : isBlank '\n' = true) (t.split '\n')
  rw [join_split] at hjoined
  simp only [strip_eq_nil_iff, hjoined, lines, List.forall_mem_map]

theorem strip_of_mem_lines {t line : Text} (h : line ∈ t.lines) : line.strip = line := by
  obtain ⟨piece, -, rfl⟩ := List.mem_map.mp h
  exact strip_strip piece

end Text

namespace Line

theorem ofText_eq (t : Text) : ofText t = numberFrom 1 t.lines := rfl

@[simp] theorem numberFrom_nil (start : Int) : numberFrom start [] = [] := rfl

@[simp] theorem numberFrom_cons (start : Int) (t : Text) (r : List Text) :
    numberFrom start (t :: r) = ⟨start, t⟩ :: numberFrom (start + 1) r := rfl

@[simp] theorem numberFrom_length (start : Int) (l : List Text) :
    (numberFrom start l).length = l.length := by
  induction l generalizing start with
  | nil => rfl
  | cons t r ih => simp [ih]

@[simp] theorem numberFrom_map_text (start : Int) (l : List Text) :
    (numberFrom start l).map (·.text) = l := by
  induction l generalizing start with
  | nil => rfl
  | cons t r ih => simp [ih]

theorem numberFrom_append (start : Int) (l m : List Text) :
    numberFrom start (l ++ m) = numberFrom start l ++ numberFrom (start + l.length) m := by
  induction l generalizing start with
  | nil => simp
  | cons t r ih =>
    have hstart : start + 1 + (r.length : Int) = start + (r.length + 1 : Nat) := by omega
    simp only [List.cons_append, numberFrom_cons, ih, List.length_cons, hstart]

theorem text_mem_lines {t : Text} {l : Line} (h : l ∈ ofText t) : l.text ∈ t.lines := by
  rw [← numberFrom_map_text 1 t.lines]
  exact List.mem_map_of_mem h

theorem forall_mem_ofText_iff {t : Text} (q : Text → Prop) :
    (∀ l ∈ ofText t, q l.text) ↔ ∀ line ∈ t.lines, q line := by
  rw [← numberFrom_map_text 1 t.lines, List.forall_mem_map, ofText_eq]

/-- No line stands before the first one. -/
theorem start_le_of_mem {start : Int} {l : List Text} {x : Line}
    (hx : x ∈ numberFrom start l) : start ≤ x.number := by
  induction l generalizing start with
  | nil => cases hx
  | cons t r ih =>
    rcases List.mem_cons.mp hx with rfl | hr
    · exact Int.le_refl _
    · have := ih hr
      omega

end Line
end ConfigAudit
