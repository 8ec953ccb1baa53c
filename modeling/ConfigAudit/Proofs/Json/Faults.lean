import ConfigAudit.Proofs.Json.Renaming
import Mathlib.Tactic.Common

/-! The faults that decoding collects, and whether one of them stops everything. -/
namespace ConfigAudit

namespace Checked

/-- What speaks against a value, if anything does. -/
def faults : Checked φ α → List φ
  | ok _ => []
  | faulty e => e

@[simp] theorem faults_map (g : α → β) (x : Checked φ α) : (g <$> x).faults = x.faults := by
  cases x <;> rfl

@[simp] theorem faults_seq (f : Checked φ (α → β)) (x : Checked φ α) :
    (f <*> x).faults = f.faults ++ x.faults := by
  change (seq f fun _ => x).faults = _
  cases f <;> cases x <;> simp [seq, faults]

@[simp] theorem faults_mapFaults (g : φ → ψ) (x : Checked φ α) :
    (x.mapFaults g).faults = x.faults.map g := by
  cases x <;> rfl

theorem faults_all (l : List (Checked φ α)) : (all l).faults = l.flatMap faults := by
  induction l with
  | nil => rfl
  | cons x l ih => simp [all, ih]

theorem all_eq_ok_iff {l : List (Checked φ α)} {v : List α} : all l = .ok v ↔ l = v.map .ok := by
  induction l generalizing v with
  | nil => cases v <;> simp [all, pure]
  | cons x l ih => cases v <;> simp [all, seq_eq_ok_iff, map_eq_ok_iff, ih]

end Checked

namespace Decoded

/-- Some fault stops everything, instead of being reported. -/
def Stops (d : Decoded α) : Prop := ∃ f ∈ d.faults, f.stop? ≠ none

@[simp] theorem stops_map (g : α → β) (d : Decoded α) : Stops (g <$> d) ↔ d.Stops := by
  simp [Stops]

@[simp] theorem stops_seq (f : Decoded (α → β)) (d : Decoded α) :
    Stops (f <*> d) ↔ f.Stops ∨ d.Stops := by
  simp only [Stops, Checked.faults_seq, List.mem_append, or_and_right, exists_or]

@[simp] theorem stops_within (s : Step) (d : Decoded α) : (d.within s).Stops ↔ d.Stops := by
  simp [Stops, within, Fault.within, Fault.stop?]

theorem stops_faulty_append (e e' : List Fault) :
    Stops (.faulty (e ++ e') : Decoded α) ↔
      Stops (.faulty e : Decoded α) ∨ Stops (.faulty e' : Decoded α) := by
  simp only [Stops, Checked.faults, List.mem_append, or_and_right, exists_or]

@[simp] theorem not_stops_ok (a : α) : ¬Stops (.ok a) := by simp [Stops, Checked.faults]

theorem not_stops_faulty_iff {faults : List Fault} :
    ¬Stops (.faulty faults : Decoded α) ↔ ∀ f ∈ faults, f.stop? = none := by
  simp [Stops, Checked.faults]

theorem stops_fault_iff (c : Cause) :
    (fault c : Decoded α).Stops ↔ ∃ container, c = .unreadableJson (.tooDeep container) := by
  simp only [Stops, fault, Checked.faults, List.mem_singleton, exists_eq_left, Fault.stop?]
  split <;> simp_all

end Decoded

namespace Decoder
open Decoded

@[simp] theorem not_stops_str (j : Json) : ¬(str j).Stops := by
  cases j <;> simp [str, stops_fault_iff]

theorem not_stops_integerOfReal (x : Binary64) : ¬(integerOfReal x).Stops := by
  unfold integerOfReal
  split
  · split_ifs <;> simp [stops_fault_iff]
  all_goals simp [stops_fault_iff]

@[simp] theorem not_stops_integer (j : Json) : ¬(integer j).Stops := by
  cases j with
  | str t =>
    simp only [integer]
    split <;> simp [stops_fault_iff]
  | real t => exact not_stops_integerOfReal _
  | _ => simp [integer, stops_fault_iff]

theorem not_stops_booleanOfWord (n : Int) : ¬(booleanOfWord n).Stops := by
  unfold booleanOfWord
  split_ifs <;> simp [stops_fault_iff]

@[simp] theorem not_stops_boolean (j : Json) : ¬(boolean j).Stops := by
  cases j with
  | str t =>
    simp only [boolean]
    split <;> simp [stops_fault_iff]
  | int n =>
    simp only [boolean]
    split_ifs
    · exact not_stops_booleanOfWord n
    · simp [stops_fault_iff]
  | real t =>
    simp only [boolean]
    split
    · exact not_stops_booleanOfWord _
    · simp [stops_fault_iff]
  | _ => simp [boolean, stops_fault_iff]

theorem not_stops_nullable {d : Decoder α} (hd : ∀ j, ¬(d j).Stops) (j : Json) :
    ¬(nullable d j).Stops := by
  unfold nullable
  split
  · simp
  · simpa using hd _

theorem not_stops_list {d : Decoder α} (hd : ∀ j, ¬(d j).Stops) (j : Json) :
    ¬(list d j).Stops := by
  cases j with
  | arr l =>
    rintro ⟨f, hf, hstop⟩
    simp only [list, items, Checked.faults_all, List.mem_flatMap, List.mem_mapIdx] at hf
    obtain ⟨_, ⟨i, hi, rfl⟩, hf⟩ := hf
    exact hd l[i] ((stops_within (.index i) _).mp ⟨f, hf, hstop⟩)
  | _ => simp [list, stops_fault_iff]

theorem str_eq_ok_iff {j : Json} {t : Text} : str j = .ok t ↔ j = .str t := by
  cases j <;> simp [str, Decoded.fault]

theorem items_str_eq_ok_iff {l : List Json} {v : List Text} :
    items str l = .ok v ↔ l = v.map .str := by
  rw [items, Checked.all_eq_ok_iff, List.ext_getElem?_iff, List.ext_getElem?_iff]
  refine forall_congr' fun i => ?_
  rw [List.getElem?_mapIdx, List.getElem?_map, List.getElem?_map]
  cases l[i]? <;> cases v[i]? <;> simp [within, Checked.mapFaults_eq_ok_iff, str_eq_ok_iff]

theorem list_str_eq_ok_iff {j : Json} {v : List Text} : list str j = .ok v ↔ j = .texts v := by
  cases j <;> simp [list, Decoded.fault, items_str_eq_ok_iff, Json.texts, Json.ofList]

end Decoder
end ConfigAudit
