import ConfigAudit.Proofs.Service.History

/-! The auditor that a service keeps. It is the one for the settings of the first call since the last
drop that could make one; what is rejected, or fails for want of a policy, leaves no trace. -/
namespace ConfigAudit

namespace Call

/-- Under some settings, a call gets as far as asking for an auditor. -/
def Reaches (g : Settings) (c : Call) : Prop := c.rejection? g = none

/-- Under some settings, a call asks for an auditor, and one can be made for them. -/
def Obtains (g : Settings) (c : Call) : Prop := c.Reaches g ∧ ∃ a, g.newAuditor = .ok a

end Call

namespace Service

/-- How the auditor that a service keeps comes from its history. -/
structure Reflects (s : Service) (start : Settings) (past : List Event) : Prop where
  settings : s.settings = start.after past
  kept : ∀ a, s.auditor = some a →
    ∃ g, FirstSinceDrop Call.Obtains start past g ∧ g.newAuditor = .ok a
  idle : s.auditor = none → Idle Call.Obtains start past

namespace Reflects

variable {s : Service} {start : Settings} {past : List Event}

theorem assign (h : s.Reflects start past) (name : Text) (value : Json) :
    (s.assign name value).Reflects start (past ++ [.assign name value]) where
  settings := by
    rw [Settings.after_snoc_assign, ← h.settings]
    rfl
  kept a ha := by
    obtain ⟨g, hfirst, hg⟩ := h.kept a ha
    exact ⟨g, hfirst.snoc Event.noConfusion, hg⟩
  idle hnone := (h.idle hnone).snoc fun _ => Event.noConfusion

theorem drop (h : s.Reflects start past) : s.dropAuditor.Reflects start (past ++ [.drop]) where
  settings := by
    rw [Settings.after_snoc_drop, ← h.settings]
    rfl
  kept a ha := by cases ha
  idle _ := Idle.snoc_drop

/-- A call that obtains no auditor does not count. -/
theorem call_of_not_obtains (h : s.Reflects start past) {c : Call}
    (hc : ¬c.Obtains (start.after past)) : s.Reflects start (past ++ [.call c]) where
  settings := by rw [Settings.after_snoc_call, h.settings]
  kept a ha := by
    obtain ⟨g, hfirst, hg⟩ := h.kept a ha
    exact ⟨g, hfirst.snoc Event.noConfusion, hg⟩
  idle hnone := by
    refine (h.idle hnone).snoc fun c' hcall => ?_
    rwa [← Event.call.inj hcall]

/-- What becomes of a service that a call asks for an auditor. -/
theorem call_of_reaches (h : s.Reflects start past) {c : Call}
    (hc : c.Reaches (start.after past)) :
    s.obtainAuditor.2.Reflects start (past ++ [.call c]) := by
  cases hkept : s.auditor with
  | some a =>
    obtain ⟨g, hfirst, hg⟩ := h.kept a hkept
    rw [obtainAuditor_of_some hkept]
    refine ⟨by rw [Settings.after_snoc_call, h.settings], fun b hb => ?_, fun hnone => ?_⟩
    · obtain rfl := Option.some.inj (hkept.symm.trans hb)
      exact ⟨g, hfirst.snoc Event.noConfusion, hg⟩
    · cases hkept.symm.trans hnone
  | none =>
    cases hmade : s.settings.newAuditor with
    | ok a =>
      rw [obtainAuditor_of_ok hkept hmade]
      rw [h.settings] at hmade
      refine ⟨by rw [Settings.after_snoc_call, ← h.settings], fun b hb => ?_, fun hnone => ?_⟩
      · obtain rfl := Option.some.inj hb
        exact ⟨_, ((h.idle hkept).snoc_call_iff c).mpr ⟨⟨hc, a, hmade⟩, rfl⟩, hmade⟩
      · cases hnone
    | error f =>
      rw [obtainAuditor_of_error hkept hmade]
      rw [h.settings] at hmade
      refine h.call_of_not_obtains ?_
      rintro ⟨-, a, ha⟩
      cases hmade.symm.trans ha

theorem step (h : s.Reflects start past) (e : Event) :
    (s.step e).Reflects start (past ++ [e]) := by
  cases e with
  | assign name value => exact h.assign name value
  | drop => exact h.drop
  | call c =>
    rw [Service.step]
    cases hrejection : c.rejection? s.settings with
    | some a =>
      rw [answer_of_rejection hrejection]
      refine h.call_of_not_obtains fun hobtains => ?_
      rw [h.settings, hobtains.1] at hrejection
      cases hrejection
    | none =>
      rw [(answer_of_served hrejection).1]
      rw [h.settings] at hrejection
      exact h.call_of_reaches hrejection

/-- The auditor is the one of the first call, be it kept or now to be made. -/
theorem obtainAuditor_of_first (h : s.Reflects start past) {c : Call} {g : Settings}
    (hfirst : FirstSinceDrop Call.Obtains start (past ++ [.call c]) g) :
    s.obtainAuditor.1 = g.newAuditor := by
  cases hkept : s.auditor with
  | some a =>
    obtain ⟨g', hfirst', hg'⟩ := h.kept a hkept
    obtain rfl := (hfirst'.snoc_call_iff c).mp hfirst
    rw [obtainAuditor_of_some hkept, hg']
  | none =>
    obtain ⟨-, hg⟩ := ((h.idle hkept).snoc_call_iff c).mp hfirst
    rw [obtainAuditor_fst_of_none hkept, h.settings, hg]

theorem obtainAuditor_of_no_first (h : s.Reflects start past) {c : Call}
    (hc : c.Reaches (start.after past))
    (hnone : ∀ g, ¬FirstSinceDrop Call.Obtains start (past ++ [.call c]) g) :
    ∃ f, (start.after past).newAuditor = .error f ∧ s.obtainAuditor = (.error f, s) := by
  have hkept : s.auditor = none := by
    cases hkept : s.auditor with
    | none => rfl
    | some a =>
      obtain ⟨g, hfirst, -⟩ := h.kept a hkept
      exact absurd (hfirst.snoc Event.noConfusion) (hnone g)
  have hfails (a : Auditor) : (start.after past).newAuditor ≠ .ok a := fun ha =>
    hnone _ (((h.idle hkept).snoc_call_iff c).mpr ⟨⟨hc, a, ha⟩, rfl⟩)
  cases hmade : (start.after past).newAuditor with
  | ok a => exact absurd hmade (hfails a)
  | error f =>
    exact ⟨f, rfl, obtainAuditor_of_error hkept (h.settings ▸ hmade)⟩

end Reflects

theorem reflects_afterEvents (start : Settings) (past : List Event) :
    (afterEvents start past).Reflects start past := by
  induction past using List.reverseRecOn with
  | nil => exact ⟨rfl, fun _ ha => (Option.some_ne_none _ ha.symm).elim, fun _ => Idle.nil⟩
  | append_singleton past e ih =>
    rw [afterEvents_snoc]
    exact ih.step e

/-- How a service answers a call behind a history, where `meets` says which calls fix the settings
that the auditor is made from. -/
structure Serves (s : Service) (meets : Settings → Call → Prop) (start : Settings)
    (past : List Event) (c : Call) : Prop where
  settings : s.settings = start.after past
  rejected : ∀ answer, c.rejection? (start.after past) = some answer → s.answer c = (answer, s)
  served : c.Reaches (start.after past) →
    ∀ g, FirstSinceDrop meets start (past ++ [.call c]) g →
      c.AnsweredWith (start.after past) (s.answer c).1 g.newAuditor
  unserved : c.Reaches (start.after past) →
    (∀ g, ¬FirstSinceDrop meets start (past ++ [.call c]) g) →
      ∃ f, (start.after past).newAuditor = .error f ∧
        s.answer c = (c.failure (start.after past) f, s)

/-- Whatever has happened, a call goes through the gates of the settings of the moment and leaves no
trace if it is rejected. Otherwise it is answered by a new auditor for the settings of the first
call since the last drop, itself included, that could obtain one. If there is none, the settings of
the moment give no policy, and the call fails and leaves no trace either. -/
theorem afterEvents_serves (start : Settings) (past : List Event) (c : Call) :
    (afterEvents start past).Serves Call.Obtains start past c := by
  have h := reflects_afterEvents start past
  have hserved := answer_of_served (s := afterEvents start past) (c := c)
  rw [h.settings] at hserved
  refine ⟨h.settings, fun answer hrejection => ?_, fun hc g hfirst => ?_, fun hc hnone => ?_⟩
  · rw [← h.settings] at hrejection
    exact answer_of_rejection hrejection
  · rw [← h.obtainAuditor_of_first hfirst]
    exact (hserved hc).2
  · obtain ⟨f, hfails, hobtain⟩ := h.obtainAuditor_of_no_first hc hnone
    obtain ⟨hstate, hanswer⟩ := hserved hc
    rw [hobtain] at hstate hanswer
    exact ⟨f, hfails, Prod.ext hanswer hstate⟩

/-- A first call that cannot obtain an auditor does not fix the settings: a later one is answered
although no auditor can be made for those. -/
theorem afterEvents_not_serves_reaches :
    ¬∀ (start : Settings) (past : List Event) (c : Call),
      (afterEvents start past).Serves Call.Reaches start past c := by
  intro hall
  let assignments : List Event := [.assign "SKIP_COMMENT_LINES" (.str "maybe")]
  let c : Call := .analyze "! secret cisco" none
  have hidle : Idle Call.Reaches {} assignments :=
    Idle.nil.snoc fun _ => Event.noConfusion
  have hfirst : FirstSinceDrop Call.Reaches {}
      (assignments ++ .call c :: [.assign "SKIP_COMMENT_LINES" (.bool true), .call c])
      (Settings.after {} assignments) :=
    ⟨assignments, c, _, rfl, by simp, rfl, hidle, rfl⟩
  have hserved := (hall {} (assignments ++ [.call c, .assign "SKIP_COMMENT_LINES" (.bool true)]) c)
    |>.served rfl _ hfirst
  -- The auditor of the first call is a failure, but the answer is a result.
  cases hserved

end Service
end ConfigAudit
