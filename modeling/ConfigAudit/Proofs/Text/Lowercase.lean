import ConfigAudit.Text.Lowercase
import Mathlib.Tactic.Common
import Mathlib.Tactic.IntervalCases

/-! What the lowercase mapping keeps in place. The form of a character may depend on what stands
around it, but only a sigma differs then, so what else is found in the form of a text is found in the
form of any text that contains it. ASCII texts and blank texts are mapped character by character. -/
namespace ConfigAudit.Text

theorem lowerAfter_append (before a b : Text) :
    ∃ front, lowerAfter before (a ++ b) = front ++ lowerAfter (a.reverse ++ before) b := by
  induction a generalizing before with
  | nil => exact ⟨[], rfl⟩
  | cons c r ih =>
    obtain ⟨front, hfront⟩ := ih (c :: before)
    refine ⟨lowerBetween before c (r ++ b) ++ front, ?_⟩
    rw [List.cons_append, lowerAfter, hfront, List.reverse_cons, List.append_assoc,
      List.append_assoc, List.singleton_append]

/-- An ending that is its own lowercase form after any text stays where it is. -/
theorem endsWith_lowercase {t ending : Text} (hlower : ∀ before, lowerAfter before ending = ending)
    (h : t.endsWith ending = true) : (lowercase t).endsWith ending = true := by
  obtain ⟨stem, rfl⟩ := List.isSuffixOf_iff_suffix.mp h
  obtain ⟨front, hfront⟩ := lowerAfter_append [] stem ending
  rw [lowercase, hfront, hlower]
  exact List.isSuffixOf_iff_suffix.mpr (List.suffix_append _ _)

/-- A text without the dotted capital and capital sigmas is lowered character by character. -/
theorem lowerAfter_of_forall {P : Char → Prop} (hdotted : ¬P '\u0130') (hsigma : ¬P '\u03A3')
    {t : Text} (ht : ∀ c ∈ t, P c) (before : Text) :
    lowerAfter before t = t.map fun c => Char.ofNat (lowerCode c.toNat) := by
  induction t generalizing before with
  | nil => rfl
  | cons c r ih =>
    obtain ⟨hc, hr⟩ := List.forall_mem_cons.mp ht
    have hne : c ≠ '\u0130' := fun h => hdotted (h ▸ hc)
    have hne' : c ≠ '\u03A3' := fun h => hsigma (h ▸ hc)
    rw [lowerAfter, lowerBetween, if_neg hne, if_neg hne', ih hr, List.map_cons,
      List.singleton_append]

section Ascii

def IsAscii (t : Text) : Prop := ∀ c ∈ t, c.toNat < 0x80

instance (t : Text) : Decidable (IsAscii t) :=
  List.decidableBAll (fun c : Char => c.toNat < 0x80) t

variable {t : Text} (ht : IsAscii t)
include ht

theorem lowercase_of_isAscii : lowercase t = t.map fun c => Char.ofNat (lowerCode c.toNat) :=
  lowerAfter_of_forall (by decide) (by decide) ht []

theorem length_lowercase_of_isAscii : (lowercase t).length = t.length := by
  rw [lowercase_of_isAscii ht, List.length_map]

/-- A property that tells no ASCII letter from its capital can be tested on the lowercase form. -/
theorem all_lowercase_of_isAscii {f : Char → Bool}
    (hf : ∀ n < 0x80, f (Char.ofNat (lowerCode n)) = f (Char.ofNat n)) :
    (lowercase t).all f = t.all f := by
  rw [lowercase_of_isAscii ht, List.all_map, Bool.eq_iff_iff, List.all_eq_true, List.all_eq_true]
  refine forall₂_congr fun c hc => ?_
  rw [Function.comp_apply, hf c.toNat (ht c hc), Char.ofNat_toNat]

end Ascii

theorem lowerCode_of_isBlank {c : Char} (hc : isBlank c = true) : lowerCode c.toNat = c.toNat := by
  simp only [isBlank, Bool.or_eq_true, Bool.and_eq_true, decide_eq_true_eq, beq_iff_eq,
    or_assoc] at hc
  generalize c.toNat = n at hc ⊢
  rcases hc with ⟨_, _⟩ | ⟨_, _⟩ | rfl | rfl | rfl | ⟨_, _⟩ | rfl | rfl | rfl | rfl | rfl
  any_goals rfl
  all_goals interval_cases n <;> rfl

/-- A blank has no case. -/
theorem lowercase_of_blank {t : Text} (ht : ∀ c ∈ t, isBlank c = true) : lowercase t = t := by
  have hsame : ∀ c ∈ t, Char.ofNat (lowerCode c.toNat) = id c := by
    intro c hc
    rw [lowerCode_of_isBlank (ht c hc), Char.ofNat_toNat, id]
  rw [lowercase, lowerAfter_of_forall (by decide) (by decide) ht, List.map_congr_left hsame,
    List.map_id]

section Sigma

/-- The sigma inside a word, for the one at its end too. -/
def medial (c : Char) : Char := if c = '\u03C2' then '\u03C3' else c

theorem map_medial_of_notMem {t : Text} (h : '\u03C2' ∉ t) : t.map medial = t := by
  have hsame : ∀ c ∈ t, medial c = id c := fun c hc => if_neg (ne_of_mem_of_not_mem hc h)
  rw [List.map_congr_left hsame, List.map_id]

theorem map_medial_lowerBetween (before : Text) (c : Char) (after : Text) :
    (lowerBetween before c after).map medial = (lowerBetween [] c []).map medial := by
  unfold lowerBetween
  split_ifs <;> rfl

/-- Apart from sigmas, a text is lowered character by character. -/
theorem map_medial_lowerAfter (before t : Text) :
    (lowerAfter before t).map medial = t.flatMap fun c => (lowerBetween [] c []).map medial := by
  induction t generalizing before with
  | nil => rfl
  | cons c r ih =>
    rw [lowerAfter, List.map_append, map_medial_lowerBetween, ih, List.flatMap_cons]

variable {pattern : Text} (hfinal : '\u03C2' ∉ pattern) (hmedial : '\u03C3' ∉ pattern)
include hfinal hmedial

theorem infix_map_medial_iff (t : Text) : pattern <:+: t.map medial ↔ pattern <:+: t := by
  constructor
  · intro h
    obtain ⟨part, hpart, rfl⟩ := List.infix_map_iff.mp h
    -- A final sigma in the part would have become a medial one in the pattern.
    have hlacks : '\u03C2' ∉ part := fun hmem => hmedial (List.mem_map_of_mem hmem)
    rwa [map_medial_of_notMem hlacks]
  · intro h
    have hmapped := h.map medial
    rwa [map_medial_of_notMem hfinal] at hmapped

/-- What stands in the form of a text, stands in the form of the text amid others. -/
theorem infix_lowercase_append {t : Text} (h : pattern <:+: lowercase t) (before after : Text) :
    pattern <:+: lowercase (before ++ t ++ after) := by
  rw [lowercase, ← infix_map_medial_iff hfinal hmedial, map_medial_lowerAfter] at h ⊢
  rw [List.flatMap_append, List.flatMap_append]
  exact h.trans (List.infix_append _ _ _)

end Sigma

end ConfigAudit.Text
