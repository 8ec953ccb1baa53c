import ConfigAudit.Proofs.Service.Calls
import Mathlib.Data.List.Induction

/-! Histories of a service. Its answers depend on what has happened before only through the settings
of the moment and through the auditor, which is that of the first call since the last drop that
could make one. -/
namespace ConfigAudit

inductive Event where
  | assign (name : Text) (value : Json)
  | drop
  | call (c : Call)

/-- What the assignments of a history make of the settings. -/
def Settings.after (start : Settings) (past : List Event) : Settings :=
  past.foldl (fun g e => match e with
    | .assign name value => g.assign name value
    | .drop | .call _ => g) start

namespace Service

def step (s : Service) : Event → Service
  | .assign name value => s.assign name value
  | .drop => s.dropAuditor
  | .call c => (s.answer c).2

/-- A service after a history, from new. -/
def afterEvents (start : Settings) (past : List Event) : Service :=
  past.foldl step { settings := start }

theorem afterEvents_snoc (start : Settings) (past : List Event) (e : Event) :
    afterEvents start (past ++ [e]) = (afterEvents start past).step e := by
  rw [afterEvents, List.foldl_append, afterEvents]
  rfl

end Service

theorem Settings.after_snoc_call (start : Settings) (past : List Event) (c : Call) :
    start.after (past ++ [.call c]) = start.after past := by
  rw [after, List.foldl_append, after]
  rfl

theorem Settings.after_snoc_drop (start : Settings) (past : List Event) :
    start.after (past ++ [.drop]) = start.after past := by
  rw [after, List.foldl_append, after]
  rfl

theorem Settings.after_snoc_assign (start : Settings) (past : List Event) (name : Text)
    (value : Json) :
    start.after (past ++ [.assign name value]) = (start.after past).assign name value := by
  rw [after, List.foldl_append, after]
  rfl

/-- A call since the last drop, together with what came before it, is of a kind. -/
def SinceDrop (kind : List Event → Call → Prop) (past : List Event) : Prop :=
  ∃ before c after, past = before ++ .call c :: after ∧ .drop ∉ after ∧ kind before c

namespace SinceDrop

variable {kind other : List Event → Call → Prop} {past : List Event}

theorem mono (himp : ∀ before c, kind before c → other before c) (h : SinceDrop kind past) :
    SinceDrop other past := by
  obtain ⟨before, c, after, hpast, hdrop, hkind⟩ := h
  exact ⟨before, c, after, hpast, hdrop, himp before c hkind⟩

theorem not_nil : ¬SinceDrop kind [] := by
  rintro ⟨before, c, after, hpast, -⟩
  exact List.append_ne_nil_of_right_ne_nil before (List.cons_ne_nil _ after) hpast.symm

/-- The last event is the call, or it is no drop and the call came before. -/
theorem snoc_iff (e : Event) :
    SinceDrop kind (past ++ [e]) ↔
      (∃ c, e = .call c ∧ kind past c) ∨ (e ≠ .drop ∧ SinceDrop kind past) := by
  constructor
  · rintro ⟨before, c, after, hpast, hdrop, hkind⟩
    -- Nothing comes after the call exactly if it is the last event.
    rcases List.eq_nil_or_concat after with rfl | ⟨between, last, rfl⟩
    · obtain ⟨rfl, hlast⟩ := List.append_inj' hpast rfl
      exact .inl ⟨c, (List.cons.inj hlast).1, hkind⟩
    · rw [List.concat_eq_append, ← List.cons_append, ← List.append_assoc] at hpast
      obtain ⟨rfl, hlast⟩ := List.append_inj' hpast rfl
      obtain rfl := (List.cons.inj hlast).1
      rw [List.concat_eq_append, List.mem_append, List.mem_singleton, not_or] at hdrop
      exact .inr ⟨Ne.symm hdrop.2, before, c, between, rfl, hdrop.1, hkind⟩
  · rintro (⟨c, rfl, hkind⟩ | ⟨hlast, before, c, after, rfl, hdrop, hkind⟩)
    · exact ⟨past, c, [], rfl, List.not_mem_nil, hkind⟩
    · refine ⟨before, c, after ++ [e], List.append_assoc _ _ _, ?_, hkind⟩
      rw [List.mem_append, List.mem_singleton, not_or]
      exact ⟨hdrop, Ne.symm hlast⟩

end SinceDrop

/-- No call since the last drop has met a condition on it and on the settings of its moment. -/
def Idle (meets : Settings → Call → Prop) (start : Settings) (past : List Event) : Prop :=
  ¬SinceDrop (fun before c => meets (start.after before) c) past

/-- These are the settings of the first call since the last drop that met a condition. -/
def FirstSinceDrop (meets : Settings → Call → Prop) (start : Settings) (past : List Event)
    (g : Settings) : Prop :=
  SinceDrop (fun before c =>
    meets (start.after before) c ∧ Idle meets start before ∧ start.after before = g) past

namespace FirstSinceDrop

variable {meets : Settings → Call → Prop} {start g g' : Settings} {past : List Event}

theorem not_idle (h : FirstSinceDrop meets start past g) : ¬Idle meets start past :=
  not_not_intro (h.mono fun _ _ hfirst => hfirst.1)

/-- There is one first call at most. -/
theorem unique (h : FirstSinceDrop meets start past g) (h' : FirstSinceDrop meets start past g') :
    g = g' := by
  induction past using List.reverseRecOn with
  | nil => exact absurd h SinceDrop.not_nil
  | append_singleton past e ih =>
    rcases (SinceDrop.snoc_iff e).mp h with ⟨c, rfl, -, hidle, hg⟩ | ⟨-, h⟩
    · rcases (SinceDrop.snoc_iff _).mp h' with ⟨c', -, -, -, hg'⟩ | ⟨-, h'⟩
      · exact hg.symm.trans hg'
      · exact absurd hidle (not_idle h')
    · rcases (SinceDrop.snoc_iff e).mp h' with ⟨c', -, -, hidle, -⟩ | ⟨-, h'⟩
      · exact absurd hidle (not_idle h)
      · exact ih h h'

theorem snoc (h : FirstSinceDrop meets start past g) {e : Event} (he : e ≠ .drop) :
    FirstSinceDrop meets start (past ++ [e]) g := (SinceDrop.snoc_iff e).mpr (.inr ⟨he, h⟩)

/-- Behind a first call, another call adds none. -/
theorem snoc_call_iff (h : FirstSinceDrop meets start past g) (c : Call) :
    FirstSinceDrop meets start (past ++ [.call c]) g' ↔ g = g' := by
  constructor
  · intro h'
    rcases (SinceDrop.snoc_iff _).mp h' with ⟨c', -, -, hidle, -⟩ | ⟨-, h'⟩
    · exact absurd hidle h.not_idle
    · exact h.unique h'
  · rintro rfl
    exact h.snoc Event.noConfusion

end FirstSinceDrop

namespace Idle

variable {meets : Settings → Call → Prop} {start g : Settings} {past : List Event}

theorem nil : Idle meets start [] := SinceDrop.not_nil

theorem snoc_drop : Idle meets start (past ++ [.drop]) := by
  intro hmet
  rcases (SinceDrop.snoc_iff _).mp hmet with ⟨c, hc, -⟩ | ⟨hdrop, -⟩
  · cases hc
  · exact hdrop rfl

theorem snoc (h : Idle meets start past) {e : Event}
    (he : ∀ c, e = .call c → ¬meets (start.after past) c) : Idle meets start (past ++ [e]) := by
  intro hmet
  rcases (SinceDrop.snoc_iff e).mp hmet with ⟨c, hc, hmeets⟩ | ⟨-, hmet⟩
  · exact he c hc hmeets
  · exact h hmet

/-- If there is no first call yet, the next call is the first one if it meets the condition. -/
theorem snoc_call_iff (h : Idle meets start past) (c : Call) :
    FirstSinceDrop meets start (past ++ [.call c]) g ↔
      meets (start.after past) c ∧ start.after past = g := by
  constructor
  · intro hfirst
    rcases (SinceDrop.snoc_iff _).mp hfirst with ⟨c', hc, hmeets, -, hg⟩ | ⟨-, hfirst⟩
    · obtain rfl := Event.call.inj hc
      exact ⟨hmeets, hg⟩
    · exact absurd h (FirstSinceDrop.not_idle hfirst)
  · rintro ⟨hmeets, hg⟩
    exact (SinceDrop.snoc_iff _).mpr (.inl ⟨c, rfl, hmeets, h, hg⟩)

end Idle
end ConfigAudit
