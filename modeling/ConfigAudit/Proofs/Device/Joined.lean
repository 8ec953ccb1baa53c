import ConfigAudit.Proofs.Device.Renumbered

/-! Two configurations with a `!` line between them. That line closes whatever block the first one
leaves open, so the inventory of the whole is that of the first part followed by that of the second
part, moved down. -/
namespace ConfigAudit

namespace Text

/-- Two configurations in one text, kept apart by a `!` line. -/
def joined (a b : Text) : Text := a ++ "\n!\n" ++ b

/-- How many lines stand before the second of two joined configurations. -/
def offset (a : Text) : Nat := a.lines.length + 1

theorem lines_joined (a b : Text) : (joined a b).lines = a.lines ++ ['!'] :: b.lines := by
  have hassoc : joined a b = a ++ '\n' :: ('!' :: '\n' :: b) := List.append_assoc a "\n!\n" b
  rw [hassoc, lines_append_cons]
  exact congrArg (a.lines ++ ·) (lines_append_cons ['!'] b)

end Text

namespace Line

def moveBy (distance : Int) (l : Line) : Line := { l with number := l.number + distance }

theorem ofText_joined (a b : Text) :
    ofText (a.joined b) =
      ofText a ++ ⟨a.offset, ['!']⟩ :: (ofText b).map (·.moveBy a.offset) := by
  have hseparator : (1 : Int) + a.lines.length = a.offset := by
    unfold Text.offset
    omega
  rw [ofText_eq, Text.lines_joined, numberFrom_append, hseparator, numberFrom_cons, Int.add_comm,
    numberFrom_add]
  rfl

end Line

def Interface.moveBy (distance : Int) (i : Interface) : Interface :=
  { i with lineNumber := i.lineNumber + distance }

def VtyLine.moveBy (distance : Int) (v : VtyLine) : VtyLine :=
  { v with lineNumber := v.lineNumber + distance }

namespace Inventory

/-- The inventory of a configuration that stands further down. Entries have no line. -/
def moveBy (distance : Int) (i : Inventory) : Inventory :=
  { i with
    interfaces := i.interfaces.map (·.moveBy distance)
    vtyLines := i.vtyLines.map (·.moveBy distance) }

/-- A `!` line closes the block that is open in front of it, whatever that block is. -/
theorem readFrom_append_cons (b : OpenBlock) (l m : List Line) {s : Line} (hs : s.text = "!") :
    readFrom b (l ++ s :: m) = readFrom b l ++ readFrom .outside m := by
  induction l generalizing b with
  | nil =>
    rw [List.nil_append, readFrom, readFrom]
    exact if_pos hs
  | cons x r ih =>
    rw [List.cons_append, readFrom, readFrom]
    split_ifs
    · rw [ih, append_assoc]
    · cases OpenBlock.ofHeader? x with
      | some opened => simp only [ih, append_assoc]
      | none => simp only [ih, append_assoc]

theorem ofText_joined (a b : Text) :
    ofText (a.joined b) = ofText a ++ (ofText b).moveBy a.offset := by
  have hsecond := readFrom_map_mapNumber (· + (a.offset : Int)) .outside (Line.ofText b)
  rw [ofText, ofLines, Line.ofText_joined, readFrom_append_cons .outside _ _ rfl]
  exact congrArg (ofText a ++ ·) hsecond

end Inventory
end ConfigAudit
