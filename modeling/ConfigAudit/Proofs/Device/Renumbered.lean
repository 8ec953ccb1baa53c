import ConfigAudit.Proofs.Device.Directive
import ConfigAudit.Proofs.Device.Inventory
import ConfigAudit.Proofs.Device.Line

/-! What the reader makes of line numbers and of empty lines. Numbers go into the inventory as they
come, whatever they are, and a line without text adds nothing to any block. -/
namespace ConfigAudit

namespace Line

def mapNumber (g : Int → Int) (l : Line) : Line := { l with number := g l.number }

theorem numberFrom_add (start distance : Int) (l : List Text) :
    numberFrom (start + distance) l = (numberFrom start l).map (·.mapNumber (· + distance)) := by
  induction l generalizing start with
  | nil => rfl
  | cons t r ih =>
    have hstart : start + distance + 1 = start + 1 + distance := by omega
    rw [numberFrom_cons, hstart, ih]
    rfl

/-- The lines that have a text. -/
def significant (lines : List Line) : List Line := lines.filter (·.text ≠ [])

theorem significant_append (l m : List Line) :
    significant (l ++ m) = significant l ++ significant m := List.filter_append l m

theorem significant_map_mapNumber (g : Int → Int) (lines : List Line) :
    significant (lines.map (·.mapNumber g)) = (significant lines).map (·.mapNumber g) := by
  rw [significant, List.filter_map]
  rfl

theorem forall_mem_significant_iff {q : Text → Prop} (hq : q []) (lines : List Line) :
    (∀ l ∈ significant lines, q l.text) ↔ ∀ l ∈ lines, q l.text := by
  simp only [significant, List.mem_filter, decide_eq_true_eq, and_imp]
  refine forall₂_congr fun l _ => ⟨fun h => ?_, fun h _ => h⟩
  by_cases hl : l.text = []
  · rwa [hl]
  · exact h hl

end Line

def Interface.mapNumber (g : Int → Int) (i : Interface) : Interface :=
  { i with lineNumber := g i.lineNumber }

def VtyLine.mapNumber (g : Int → Int) (v : VtyLine) : VtyLine :=
  { v with lineNumber := g v.lineNumber }

namespace OpenBlock

def mapNumber (g : Int → Int) : OpenBlock → OpenBlock
  | outside => outside
  | interface i => interface (i.mapNumber g)
  | vty v => vty (v.mapNumber g)

theorem apply_mapNumber (g : Int → Int) (t : Text) (b : OpenBlock) :
    (b.mapNumber g).apply t = (b.apply t).mapNumber g := by
  cases b with
  | outside => rfl
  | interface i =>
    simp only [mapNumber, apply, Interface.apply_eq]
    rfl
  | vty v =>
    simp only [mapNumber, apply, VtyLine.apply_eq]
    rfl

theorem ofHeader?_mapNumber (g : Int → Int) (l : Line) :
    ofHeader? (l.mapNumber g) = (ofHeader? l).map (·.mapNumber g) := by
  unfold ofHeader? Line.mapNumber
  split_ifs <;> rfl

theorem apply_nil (b : OpenBlock) : b.apply [] = b := by
  cases b <;> rfl

end OpenBlock

namespace Inventory

def mapNumber (g : Int → Int) (i : Inventory) : Inventory :=
  { i with
    interfaces := i.interfaces.map (·.mapNumber g)
    vtyLines := i.vtyLines.map (·.mapNumber g) }

theorem mapNumber_append (g : Int → Int) (i j : Inventory) :
    (i ++ j).mapNumber g = i.mapNumber g ++ j.mapNumber g := by
  simp only [mapNumber, append_def, List.map_append]

theorem mapNumber_close (g : Int → Int) (b : OpenBlock) :
    b.close.mapNumber g = (b.mapNumber g).close := by
  cases b <;> rfl

theorem mapNumber_aclEntry (g : Int → Int) (t : Text) : (aclEntry t).mapNumber g = aclEntry t := by
  unfold aclEntry
  split_ifs <;> rfl

/-- Reading takes the numbers of the lines as they are. -/
theorem readFrom_map_mapNumber (g : Int → Int) (b : OpenBlock) (lines : List Line) :
    readFrom (b.mapNumber g) (lines.map (·.mapNumber g)) = (readFrom b lines).mapNumber g := by
  induction lines generalizing b with
  | nil => exact (mapNumber_close g b).symm
  | cons l r ih =>
    have houtside := ih .outside
    rw [OpenBlock.mapNumber] at houtside
    rw [List.map_cons, readFrom, readFrom, OpenBlock.ofHeader?_mapNumber, Line.mapNumber]
    split_ifs
    · rw [mapNumber_append, mapNumber_close, houtside]
    · cases OpenBlock.ofHeader? l with
      | some opened =>
        simp only [Option.map_some, mapNumber_append, mapNumber_close, mapNumber_aclEntry, ih]
      | none =>
        simp only [Option.map_none, mapNumber_append, mapNumber_aclEntry, OpenBlock.apply_mapNumber,
          ih]

theorem readFrom_cons_of_text_eq_nil (b : OpenBlock) {l : Line} (hl : l.text = []) (r : List Line) :
    readFrom b (l :: r) = readFrom b r := by
  have hheader : OpenBlock.ofHeader? l = none := by
    rw [OpenBlock.ofHeader?, hl]
    rfl
  rw [readFrom, hheader, hl, OpenBlock.apply_nil]
  rfl

/-- Empty lines may stand anywhere, also inside a block. -/
theorem readFrom_significant (b : OpenBlock) (lines : List Line) :
    readFrom b (Line.significant lines) = readFrom b lines := by
  induction lines generalizing b with
  | nil => rfl
  | cons l r ih =>
    by_cases hl : l.text = []
    · have hskip : Line.significant (l :: r) = Line.significant r :=
        List.filter_cons_of_neg (by simpa using hl)
      rw [hskip, ih, readFrom_cons_of_text_eq_nil b hl]
    · have hkeep : Line.significant (l :: r) = l :: Line.significant r :=
        List.filter_cons_of_pos (by simpa using hl)
      rw [hkeep, readFrom, readFrom]
      simp only [ih]

end Inventory
end ConfigAudit
