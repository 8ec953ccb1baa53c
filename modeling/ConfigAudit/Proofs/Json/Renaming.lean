import ConfigAudit.Json.Records
import Mathlib.Data.List.Forall2
import Mathlib.Data.Option.Basic

/-! Values that differ in the names of fields only. A decoder that accepts one gives the same value
for the other, unless an object bears both names of a field. -/
namespace ConfigAudit

namespace Checked

/-- Where the first outcome is a value, the second one is that value. -/
def Refines (x x' : Checked φ α) : Prop := ∀ a, x = .ok a → x' = .ok a

theorem map_eq_ok_iff {x : Checked φ α} {g : α → β} {b : β} :
    g <$> x = .ok b ↔ ∃ a, x = .ok a ∧ g a = b := by
  cases x with
  | ok a =>
    change (Checked.ok (g a) : Checked φ β) = .ok b ↔ _
    simp
  | faulty e =>
    change (Checked.faulty e : Checked φ β) = .ok b ↔ _
    simp

theorem seq_eq_ok_iff {f : Checked φ (α → β)} {x : Checked φ α} {b : β} :
    f <*> x = .ok b ↔ ∃ g a, f = .ok g ∧ x = .ok a ∧ g a = b := by
  change seq f (fun _ => x) = .ok b ↔ _
  cases f <;> cases x <;> simp [seq]

theorem mapFaults_eq_ok_iff {x : Checked φ α} {g : φ → ψ} {a : α} :
    x.mapFaults g = .ok a ↔ x = .ok a := by
  cases x <;> simp [mapFaults]

namespace Refines

variable {x x' : Checked φ α}

theorem map (g : α → β) (h : Refines x x') : Refines (g <$> x) (g <$> x') := by
  intro b hb
  obtain ⟨a, ha, hg⟩ := map_eq_ok_iff.mp hb
  exact map_eq_ok_iff.mpr ⟨a, h a ha, hg⟩

theorem seq {f f' : Checked φ (α → β)} (hf : Refines f f') (hx : Refines x x') :
    Refines (f <*> x) (f' <*> x') := by
  intro b hb
  obtain ⟨g, a, hg, ha, hb⟩ := seq_eq_ok_iff.mp hb
  exact seq_eq_ok_iff.mpr ⟨g, a, hf g hg, hx a ha, hb⟩

theorem mapFaults (g g' : φ → ψ) (h : Refines x x') : Refines (x.mapFaults g) (x'.mapFaults g') :=
  fun a ha => mapFaults_eq_ok_iff.mpr (h a (mapFaults_eq_ok_iff.mp ha))

theorem all {l l' : List (Checked φ α)} (h : List.Forall₂ Refines l l') :
    Refines (all l) (all l') := by
  induction h with
  | nil => exact fun _ ha => ha
  | cons hx _ ih => exact (hx.map _).seq ih

end Refines
end Checked

theorem Decoded.within_refines {x x' : Decoded α} (s s' : Step) (h : Checked.Refines x x') :
    Checked.Refines (x.within s) (x'.within s') := h.mapFaults _ _

namespace FieldName

/-- The fields of the records that have two names. -/
def twofold : List FieldName :=
  [ipAddress, lineNumber, accessClass, totalInterfaces, totalVtyLines, totalAcls, vtyLines,
    reference, totalIssues, securityScore, passwordAnalysis, configSummary, configText]

/-- The keys under which they are read. -/
def twofoldKeys : List String :=
  ["ipAddress", "ip_address", "lineNumber", "line_number", "accessClass", "access_class",
    "totalInterfaces", "total_interfaces", "totalVTYLines", "total_vty_lines", "totalACLs",
    "total_acls", "vtyLines", "vty_lines", "cve", "reference_id", "totalIssues", "total_issues",
    "securityScore", "security_score", "passwordAnalysis", "password_analysis", "configSummary",
    "config_summary", "configText", "config_text"]

theorem flatMap_twofold :
    twofold.flatMap (fun f => [f.written, f.other]) = twofoldKeys.map String.toList := rfl

/-- The field is read under that key. -/
def Answers (name : FieldName) (key : Text) : Prop := key = name.written ∨ key = name.other

instance (name : FieldName) (key : Text) : Decidable (name.Answers key) :=
  inferInstanceAs (Decidable (_ ∨ _))

/-- No field with two names shares one of them with the field, unless it is that field. -/
def Apart (name : FieldName) : Prop :=
  ∀ f ∈ twofold, f = name ∨ ¬f.Answers name.written ∧ ¬f.Answers name.other

instance (name : FieldName) : Decidable name.Apart :=
  inferInstanceAs (Decidable (∀ f ∈ twofold, _))

theorem apart_of_mem_twofold : ∀ name ∈ twofold, name.Apart := by decide

theorem not_answers_of_notMem {s : String} (h : s ∉ twofoldKeys) :
    ∀ f ∈ twofold, ¬f.Answers s := by
  intro f hf hanswers
  have hkey : s.toList ∈ twofold.flatMap fun f => [f.written, f.other] :=
    List.mem_flatMap.mpr ⟨f, hf, by simpa [Answers] using hanswers⟩
  rw [flatMap_twofold] at hkey
  obtain ⟨key, hmem, hsame⟩ := List.mem_map.mp hkey
  exact h (String.toList_injective hsame ▸ hmem)

/-- A field with one name, under which no field with two is read. -/
theorem apart_of_notMem {s : String} (h : s ∉ twofoldKeys) : Apart s :=
  fun f hf => .inr ⟨not_answers_of_notMem h f hf, not_answers_of_notMem h f hf⟩

end FieldName

/-- The same key, or the two names of a field. -/
def Interchangeable (k k' : Text) : Prop :=
  k = k' ∨ ∃ f ∈ FieldName.twofold, f.Answers k ∧ f.Answers k'

namespace Json

/-- The second value is the first one with any of its keys, at any depth, replaced by the other name
of their field. -/
inductive Renamed : Json → Json → Prop where
  | refl (j : Json) : Renamed j j
  | arr {l l' : List Json} (items : List.Forall₂ Renamed l l') : Renamed (.arr l) (.arr l')
  -- Keys and values apart: the relation may not stand beside another one under `Forall₂`.
  | obj {m m' : List (Text × Json)}
      (keys : List.Forall₂ Interchangeable (m.map Prod.fst) (m'.map Prod.fst))
      (values : List.Forall₂ Renamed (m.map Prod.snd) (m'.map Prod.snd)) :
      Renamed (.obj m) (.obj m')

/-- Members whose keys may be interchanged, and whose values differ in names only. -/
def RenamedMember (x x' : Text × Json) : Prop := Interchangeable x.1 x'.1 ∧ Renamed x.2 x'.2

theorem renamedMember_refl (x : Text × Json) : RenamedMember x x := ⟨.inl rfl, .refl x.2⟩

theorem forall₂_renamedMember {m m' : List (Text × Json)}
    (hkeys : List.Forall₂ Interchangeable (m.map Prod.fst) (m'.map Prod.fst))
    (hvalues : List.Forall₂ Renamed (m.map Prod.snd) (m'.map Prod.snd)) :
    List.Forall₂ RenamedMember m m' := by
  rw [List.forall₂_map_left_iff, List.forall₂_map_right_iff] at hkeys hvalues
  induction hkeys with
  | nil => exact .nil
  | cons hkey _ ih =>
    cases hvalues with
    | cons hvalue hvalues => exact .cons ⟨hkey, hvalue⟩ (ih hvalues)

theorem Renamed.of_arr {l : List Json} {j : Json} (h : Renamed (.arr l) j) :
    ∃ l', j = .arr l' ∧ List.Forall₂ Renamed l l' := by
  cases h with
  | refl => exact ⟨l, rfl, List.forall₂_same.mpr fun j _ => .refl j⟩
  | arr items => exact ⟨_, rfl, items⟩

theorem Renamed.of_obj {m : List (Text × Json)} {j : Json} (h : Renamed (.obj m) j) :
    ∃ m', j = .obj m' ∧ List.Forall₂ RenamedMember m m' := by
  cases h with
  | refl => exact ⟨m, rfl, List.forall₂_same.mpr fun x _ => renamedMember_refl x⟩
  | obj keys values => exact ⟨_, rfl, forall₂_renamedMember keys values⟩

/-- An array whose items satisfy a condition, or another value. -/
def Each (p : Json → Prop) : Json → Prop
  | .arr l => ∀ j ∈ l, p j
  | _ => True

/-- An object whose members satisfy a condition, or another value. -/
def Members (p : List (Text × Json) → Prop) : Json → Prop
  | .obj m => p m
  | _ => True

end Json

open Json (Renamed RenamedMember)

namespace FieldName

variable {name : FieldName} {m m' : List (Text × Json)}

/-- The keys of an object are distinct, and not both names of a field are among them. -/
structure Single (name : FieldName) (m : List (Text × Json)) : Prop where
  nodup : (m.map Prod.fst).Nodup
  notBoth : ¬(name.written ∈ m.map Prod.fst ∧ name.other ∈ m.map Prod.fst)

/-- The value of a field satisfies a condition, if there is one. -/
def Holds (name : FieldName) (p : Json → Prop) (m : List (Text × Json)) : Prop :=
  ∀ x ∈ name.find? m, p x.2

/-- Interchanging keys leaves open under which of its names a field is read, and nothing else. -/
theorem Apart.answers_iff (hname : name.Apart) {k k' : Text} (h : Interchangeable k k') :
    name.Answers k ↔ name.Answers k' := by
  obtain rfl | ⟨f, hf, hk, hk'⟩ := h
  · rfl
  · obtain rfl | ⟨hwritten, hother⟩ := hname f hf
    · exact iff_of_true hk hk'
    · have hnot : ∀ k, f.Answers k → ¬name.Answers k := by
        rintro k hk (rfl | rfl)
        · exact hwritten hk
        · exact hother hk
      exact iff_of_false (hnot k hk) (hnot k' hk')

/-- No two members of the list answer to the field. -/
def OnlyOne (name : FieldName) (m : List (Text × Json)) : Prop :=
  m.Pairwise fun x y => ¬(name.Answers x.1 ∧ name.Answers y.1)

theorem Single.onlyOne (h : name.Single m) : name.OnlyOne m := by
  refine List.Pairwise.imp_of_mem ?_ (List.pairwise_map.mp h.nodup)
  rintro x y hx hy hne ⟨hx' | hx', hy' | hy'⟩
  · exact hne (hx'.trans hy'.symm)
  · exact h.notBoth ⟨hx' ▸ List.mem_map_of_mem hx, hy' ▸ List.mem_map_of_mem hy⟩
  · exact h.notBoth ⟨hy' ▸ List.mem_map_of_mem hy, hx' ▸ List.mem_map_of_mem hx⟩
  · exact hne (hx'.trans hy'.symm)

theorem lookup_eq_none {k : Text} (h : ∀ x ∈ m, x.1 ≠ k) : Json.lookup k m = none := by
  induction m with
  | nil => rfl
  | cons x r ih =>
    rw [Json.lookup, if_neg (h x List.mem_cons_self)]
    exact ih fun y hy => h y (List.mem_cons_of_mem x hy)

/-- A field that is known under one name, or that one member at most answers to, is the first member
that answers to it: which of two names is tried first does not matter. -/
theorem find?_eq (h : name.written = name.other ∨ name.OnlyOne m) :
    name.find? m = m.find? (fun x => name.Answers x.1) := by
  induction m with
  | nil => rfl
  | cons x r ih =>
    obtain ⟨k, v⟩ := x
    by_cases hwritten : k = name.written
    · have hanswers : name.Answers k := .inl hwritten
      simp [find?, Json.lookup, hwritten, Answers]
    · by_cases hother : k = name.other
      · -- The written name is tried first, so no later member may bear it.
        have hrest : ∀ x ∈ r, x.1 ≠ name.written := by
          intro x hx hkey
          obtain hplain | honly := h
          · exact hwritten (hother.trans hplain.symm)
          · exact List.rel_of_pairwise_cons honly hx ⟨.inr hother, .inl hkey⟩
        have hnone := lookup_eq_none hrest
        simp [find?, Json.lookup, hother, hother ▸ hwritten, Answers, hnone]
      · have htail := ih (h.imp_right List.Pairwise.of_cons)
        have hanswers : ¬name.Answers k := fun h => h.elim hwritten hother
        rw [List.find?_cons_of_neg (by simpa using hanswers), ← htail]
        simp only [find?, Json.lookup, if_neg hwritten, if_neg hother]

theorem OnlyOne.renamed (hname : name.Apart) (h : List.Forall₂ RenamedMember m m')
    (honly : name.OnlyOne m) : name.OnlyOne m' := by
  have hsame : m.map (fun x => name.Answers x.1) = m'.map (fun x => name.Answers x.1) := by
    induction h with
    | nil => rfl
    | cons hx _ ih =>
      exact congrArg₂ List.cons (propext (hname.answers_iff hx.1)) (ih honly.of_cons)
  have hpairs : (m.map fun x => name.Answers x.1).Pairwise fun p q => ¬(p ∧ q) :=
    List.pairwise_map.mpr honly
  rw [hsame] at hpairs
  exact List.pairwise_map.mp hpairs

/-- The member of a field is still found, with a value that differs in names only. -/
theorem find?_renamed (hname : name.Apart) (hsingle : name.written = name.other ∨ name.Single m)
    (h : List.Forall₂ RenamedMember m m') :
    Option.Rel (fun x x' => Renamed x.2 x'.2) (name.find? m) (name.find? m') := by
  have honly := hsingle.imp_right Single.onlyOne
  -- The first member that answers stands at the same place in both objects.
  rw [find?_eq honly, find?_eq (honly.imp_right (OnlyOne.renamed hname h))]
  clear hsingle honly
  induction h with
  | nil => exact .none
  | @cons x x' _ _ hx _ ih =>
    have hiff := hname.answers_iff hx.1
    by_cases hanswers : name.Answers x.1
    · rw [List.find?_cons_of_pos (by simpa using hanswers),
        List.find?_cons_of_pos (by simpa using hiff.mp hanswers)]
      exact .some hx.2
    · rw [List.find?_cons_of_neg (by simpa using hanswers),
        List.find?_cons_of_neg (by simpa using mt hiff.mpr hanswers)]
      exact ih

end FieldName

namespace Decoder

/-- Renaming fields of a value that satisfies a condition does not change what a decoder gives for
it, if the decoder accepts it. -/
def IgnoresNames (p : Json → Prop) (d : Decoder α) : Prop :=
  ∀ j j', p j → Renamed j j' → Checked.Refines (d j) (d j')

/-- No condition on a value. -/
abbrev Anything (_ : Json) : Prop := True

variable {d : Decoder α} {p : Json → Prop}

theorem ignoresNames_scalar (harr : ∀ l a, d (.arr l) ≠ .ok a) (hobj : ∀ m a, d (.obj m) ≠ .ok a) :
    IgnoresNames p d := by
  intro j j' _ h a ha
  cases h with
  | refl => exact ha
  | arr => exact absurd ha (harr _ _)
  | obj => exact absurd ha (hobj _ _)

theorem str_ignoresNames : IgnoresNames Anything str :=
  ignoresNames_scalar nofun nofun

theorem integer_ignoresNames : IgnoresNames Anything integer :=
  ignoresNames_scalar nofun nofun

theorem boolean_ignoresNames : IgnoresNames Anything boolean :=
  ignoresNames_scalar nofun nofun

theorem score_ignoresNames : IgnoresNames Anything score :=
  ignoresNames_scalar nofun nofun

theorem choice_ignoresNames [Choice α] : IgnoresNames Anything (choice (α := α)) :=
  ignoresNames_scalar nofun nofun

theorem nullable_ignoresNames (hd : IgnoresNames p d) : IgnoresNames p (nullable d) := by
  intro j j' hj h
  have hmap := (hd j j' hj h).map some
  cases h with
  | refl => exact fun _ ha => ha
  | arr => exact hmap
  | obj => exact hmap

theorem items_refines {l l' : List Json} (hd : IgnoresNames p d) (hp : ∀ j ∈ l, p j)
    (h : List.Forall₂ Renamed l l') : Checked.Refines (items d l) (items d l') := by
  have hlength := h.length_eq
  refine Checked.Refines.all (List.forall₂_iff_get.mpr ⟨by simpa using hlength, ?_⟩)
  intro i hi hi'
  rw [List.length_mapIdx] at hi hi'
  have hitem := hd l[i] l'[i] (hp _ (List.getElem_mem hi)) (h.get hi hi')
  simpa using Decoded.within_refines (.index i) (.index i) hitem

theorem list_ignoresNames (hd : IgnoresNames p d) : IgnoresNames (Json.Each p) (list d) := by
  intro j j' hj h
  cases j with
  | arr l =>
    obtain ⟨l', rfl, hitems⟩ := h.of_arr
    exact items_refines hd hj hitems
  | _ => exact nofun

theorem tuple_ignoresNames (hd : IgnoresNames p d) : IgnoresNames (Json.Each p) (tuple d) := by
  intro j j' hj h
  cases j with
  | arr l =>
    obtain ⟨l', rfl, hitems⟩ := h.of_arr
    exact items_refines hd hj hitems
  | _ => exact nofun

theorem record_ignoresNames {name : Text} {d : List (Text × Json) → Decoded α}
    {p : List (Text × Json) → Prop}
    (h : ∀ m m', p m → List.Forall₂ RenamedMember m m' → Checked.Refines (d m) (d m')) :
    IgnoresNames (Json.Members p) (record name d) := by
  intro j j' hj hr
  cases j with
  | obj m =>
    obtain ⟨m', rfl, hm⟩ := hr.of_obj
    exact h m m' hj hm
  | _ => exact nofun

/-- A record in which no field has two names. -/
theorem record_ignoresNames_plain {name : Text} {d : List (Text × Json) → Decoded α}
    (h : ∀ m m', List.Forall₂ RenamedMember m m' → Checked.Refines (d m) (d m')) :
    IgnoresNames Anything (record name d) := by
  intro j j' _ hr
  have hmembers : Json.Members (fun _ => True) j := by cases j <;> trivial
  exact record_ignoresNames (fun m m' _ => h m m') j j' hmembers hr

end Decoder

namespace FieldName

variable {name : FieldName} {m m' : List (Text × Json)} {d : Decoder α} {p : Json → Prop}

/-- How a field is read from its member, and what is done without one, are the same for both. -/
theorem elim_refines {o o' : Option (Text × Json)} (fallback : Decoded α) (hd : d.IgnoresNames p)
    (hp : ∀ x ∈ o, p x.2) (h : Option.Rel (fun x x' => Renamed x.2 x'.2) o o') :
    Checked.Refines (o.elim fallback fun x => (d x.2).within (.key x.1))
      (o'.elim fallback fun x => (d x.2).within (.key x.1)) := by
  cases h with
  | none => exact fun _ ha => ha
  | some hvalue => exact Decoded.within_refines _ _ (hd _ _ (hp _ rfl) hvalue)

theorem required_eq (name : FieldName) (d : Decoder α) (m : List (Text × Json)) :
    name.required d m = (name.find? m).elim ((Decoded.fault .missing).within (.key name.written))
      fun x => (d x.2).within (.key x.1) := by
  rw [required]
  cases name.find? m <;> rfl

theorem optional_eq (name : FieldName) (default : α) (d : Decoder α) (m : List (Text × Json)) :
    name.optional default d m =
      (name.find? m).elim (.ok default) fun x => (d x.2).within (.key x.1) := by
  rw [optional]
  cases name.find? m <;> rfl

theorem required_refines (hname : name.Apart) (hsingle : name.written = name.other ∨ name.Single m)
    (hd : d.IgnoresNames p) (hp : name.Holds p m) (h : List.Forall₂ RenamedMember m m') :
    Checked.Refines (name.required d m) (name.required d m') := by
  rw [required_eq, required_eq]
  exact elim_refines _ hd hp (find?_renamed hname hsingle h)

theorem optional_refines (default : α) (hname : name.Apart)
    (hsingle : name.written = name.other ∨ name.Single m) (hd : d.IgnoresNames p)
    (hp : name.Holds p m) (h : List.Forall₂ RenamedMember m m') :
    Checked.Refines (name.optional default d m) (name.optional default d m') := by
  rw [optional_eq, optional_eq]
  exact elim_refines _ hd hp (find?_renamed hname hsingle h)

end FieldName
end ConfigAudit
