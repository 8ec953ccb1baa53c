import ConfigAudit.Proofs.Device.Position
import ConfigAudit.Proofs.Device.Renumbered
import Mathlib.Data.List.Basic

/-! The layout of a configuration: blanks around its lines, and lines of nothing but blanks. The
former leave the lines as they are, the latter move the numbers of the lines behind them. -/
namespace ConfigAudit

namespace Text

/-- Blanks that end no line. A carriage return is one of them. -/
def IsMargin (t : Text) : Prop := ∀ c ∈ t, isBlank c = true ∧ c ≠ '\n'

instance (t : Text) : Decidable t.IsMargin := List.decidableBAll _ t

theorem IsMargin.isBlank {t : Text} (h : t.IsMargin) : ∀ c ∈ t, Text.isBlank c = true :=
  fun c hc => (h c hc).1

theorem IsMargin.newline_notMem {t : Text} (h : t.IsMargin) : '\n' ∉ t :=
  fun hmem => (h '\n' hmem).2 rfl

theorem IsMargin.strip_eq_nil {t : Text} (h : t.IsMargin) : t.strip = [] :=
  strip_eq_nil_iff.mpr h.isBlank

/-- A text with something before and something after each of its lines. -/
def framed (before after : Nat → Text) (t : Text) : Text :=
  join ['\n'] ((t.split '\n').mapIdx fun i line => before i ++ line ++ after i)

theorem lines_framed {before after : Nat → Text} (hbefore : ∀ i, (before i).IsMargin)
    (hafter : ∀ i, (after i).IsMargin) (t : Text) : (t.framed before after).lines = t.lines := by
  have hpieces : ∀ piece ∈ (t.split '\n').mapIdx fun i line => before i ++ line ++ after i,
      '\n' ∉ piece := by
    intro piece hpiece
    obtain ⟨i, hi, rfl⟩ := List.mem_mapIdx.mp hpiece
    have hline := notMem_of_mem_split (List.getElem_mem hi)
    simp only [List.mem_append, not_or]
    exact ⟨⟨(hbefore i).newline_notMem, hline⟩, (hafter i).newline_notMem⟩
  have hne : (t.split '\n').mapIdx (fun i line => before i ++ line ++ after i) ≠ [] :=
    List.mapIdx_ne_nil_iff.mpr (split_ne_nil '\n' t)
  rw [lines, framed, split_join hpieces hne, lines]
  refine List.ext_getElem (by simp) fun i hi hline => ?_
  rw [List.getElem_map, List.getElem_mapIdx, List.getElem_map,
    strip_append_of_blank (hbefore i).isBlank (hafter i).isBlank]

/-- A text with more lines in front of the line of number `k`. -/
def insertLines (k : Nat) (extra : List Text) (t : Text) : Text :=
  join ['\n'] ((t.split '\n').take (k - 1) ++ extra ++ (t.split '\n').drop (k - 1))

theorem lines_insertLines {extra : List Text} (hextra : ∀ line ∈ extra, line.IsMargin) (k : Nat)
    (t : Text) :
    (t.insertLines k extra).lines =
      t.lines.take (k - 1) ++ List.replicate extra.length [] ++ t.lines.drop (k - 1) := by
  have hpieces : ∀ piece ∈ (t.split '\n').take (k - 1) ++ extra ++ (t.split '\n').drop (k - 1),
      '\n' ∉ piece := by
    simp only [List.mem_append]
    rintro piece ((hpiece | hpiece) | hpiece)
    · exact notMem_of_mem_split (List.mem_of_mem_take hpiece)
    · exact (hextra piece hpiece).newline_notMem
    · exact notMem_of_mem_split (List.mem_of_mem_drop hpiece)
  have hne : (t.split '\n').take (k - 1) ++ extra ++ (t.split '\n').drop (k - 1) ≠ [] := by
    intro hnil
    simp only [List.append_eq_nil_iff] at hnil
    apply split_ne_nil '\n' t
    rw [← List.take_append_drop (k - 1) (t.split '\n'), hnil.1.1, hnil.2, List.append_nil]
  have hblank : extra.map strip = List.replicate extra.length [] := by
    refine List.eq_replicate_iff.mpr ⟨List.length_map strip, ?_⟩
    simpa using fun line hline => (hextra line hline).strip_eq_nil
  rw [lines, insertLines, split_join hpieces hne, List.map_append, List.map_append, hblank,
    List.map_take, List.map_drop, lines]

end Text

namespace Line

/-- Where a line stands when `m` lines have been put in front of the line of number `k`. -/
def shiftFrom (k m : Nat) (n : Int) : Int := if n < k then n else n + m

theorem significant_numberFrom_blank (start : Int) (m : Nat) :
    significant (numberFrom start (List.replicate m [])) = [] := by
  refine List.filter_eq_nil_iff.mpr fun l hl => ?_
  obtain ⟨i, hi, -⟩ := mem_numberFrom_iff.mp hl
  have hempty := List.eq_of_mem_replicate (List.mem_of_getElem? hi)
  simp [hempty]

/-- The lines in front of the inserted ones keep their numbers. -/
theorem numberFrom_take_shift {k m : Nat} (lines : List Text) :
    (numberFrom 1 (lines.take (k - 1))).map (·.mapNumber (shiftFrom k m)) =
      numberFrom 1 (lines.take (k - 1)) := by
  refine (List.map_congr_left fun l hl => ?_).trans (List.map_id _)
  obtain ⟨i, hi, hnumber⟩ := mem_numberFrom_iff.mp hl
  have hshort := (List.getElem?_eq_some_iff.mp hi).1
  rw [List.length_take] at hshort
  have hbefore : l.number < k := by omega
  rw [mapNumber, shiftFrom, if_pos hbefore, id]

/-- The lines behind the inserted ones are all moved. -/
theorem numberFrom_drop_shift {k m : Nat} (lines : List Text) :
    (numberFrom (1 + (lines.take (k - 1)).length) (lines.drop (k - 1))).map
        (·.mapNumber (shiftFrom k m)) =
      numberFrom (1 + (lines.take (k - 1)).length + m) (lines.drop (k - 1)) := by
  rw [numberFrom_add _ (m : Int)]
  refine List.map_congr_left fun l hl => ?_
  obtain ⟨i, hi, hnumber⟩ := mem_numberFrom_iff.mp hl
  have hlong := (List.getElem?_eq_some_iff.mp hi).1
  rw [List.length_drop] at hlong
  rw [List.length_take] at hnumber
  have hbehind : ¬l.number < k := by omega
  rw [mapNumber, shiftFrom, if_neg hbehind, mapNumber]

/-- Inserted blank lines add no line with a text, and move those behind them. -/
theorem significant_ofText_insertLines {extra : List Text}
    (hextra : ∀ line ∈ extra, line.IsMargin) (k : Nat) (t : Text) :
    significant (ofText (t.insertLines k extra)) =
      (significant (ofText t)).map (·.mapNumber (shiftFrom k extra.length)) := by
  have hsplit := List.take_append_drop (k - 1) t.lines
  -- The inserted lines have no text, so each half is renumbered by itself.
  calc significant (ofText (t.insertLines k extra))
      = significant (numberFrom 1 (t.lines.take (k - 1))) ++
          significant (numberFrom (1 + (t.lines.take (k - 1)).length + extra.length)
            (t.lines.drop (k - 1))) := by
        rw [ofText_eq, Text.lines_insertLines hextra, numberFrom_append, numberFrom_append,
          significant_append, significant_append, significant_numberFrom_blank, List.append_nil,
          List.length_append, List.length_replicate, Int.natCast_add, ← Int.add_assoc]
    _ = (significant (numberFrom 1 (t.lines.take (k - 1) ++ t.lines.drop (k - 1)))).map
          (·.mapNumber (shiftFrom k extra.length)) := by
        rw [numberFrom_append, significant_append, List.map_append, ← significant_map_mapNumber,
          ← significant_map_mapNumber, numberFrom_take_shift, numberFrom_drop_shift]
    _ = (significant (ofText t)).map (·.mapNumber (shiftFrom k extra.length)) := by
        rw [hsplit, ofText_eq]

end Line

/-- Inserted blank lines move the blocks behind them. -/
theorem Inventory.ofText_insertLines {extra : List Text}
    (hextra : ∀ line ∈ extra, line.IsMargin) (k : Nat) (t : Text) :
    ofText (t.insertLines k extra) = (ofText t).mapNumber (Line.shiftFrom k extra.length) := by
  have hread := readFrom_map_mapNumber (Line.shiftFrom k extra.length) .outside
    (Line.significant (Line.ofText t))
  rw [← Line.significant_ofText_insertLines hextra, readFrom_significant,
    readFrom_significant] at hread
  exact hread

end ConfigAudit
