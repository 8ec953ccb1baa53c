import ConfigAudit.Proofs.Http.Consulting

/-! The layers around the routes, told by the headers that they leave on a response. Every response
is traced but the answers to preflights and to failures that no route handles, and every response
but the latter names the origin of its request if that is a listed one. -/
namespace ConfigAudit.Http

namespace Response

/-- The value of the first header of a name. -/
def header? (a : Response) (name : Text) : Option Text :=
  (a.headers.find? fun h => h.1 = name).map (·.2)

/-- The answer to a failure that no route has handled. -/
def IsCrash (a : Response) (g : Settings) : Prop := ∃ f, a = answerCrash g f

end Response

def allowOrigin : Text := "access-control-allow-origin"

/-- The origin of a request, if it is among the listed ones. -/
def Request.listedOrigin? (r : Request) (origins : List Text) : Option Text :=
  (r.header? "origin").filter (· ∈ origins)

section Origin

variable (origins : List Text) (r : Request)

theorem find?_originHeaders :
    ((originHeaders origins r).find? fun h => h.1 = allowOrigin).map (·.2) =
      r.listedOrigin? origins := by
  have hcredentials : ("access-control-allow-credentials" : Text) ≠ allowOrigin := by decide
  have hrest (value : Text) (l : List (Text × Text)) :
      ((("access-control-allow-credentials" : Text), value) :: l).find?
          (fun h => h.1 = allowOrigin) =
        l.find? fun h => h.1 = allowOrigin :=
    List.find?_cons_of_neg (mt of_decide_eq_true hcredentials)
  have hfound (origin : Text) :
      [(allowOrigin, origin)].find? (fun h => h.1 = allowOrigin) = some (allowOrigin, origin) :=
    List.find?_cons_of_pos (decide_eq_true rfl)
  unfold originHeaders Request.listedOrigin?
  cases r.header? "origin" with
  | none => rfl
  | some origin =>
    dsimp only
    rw [hrest, Option.filter_some]
    by_cases hlisted : origin ∈ origins
    · rw [if_pos (List.contains_iff_mem.mpr hlisted), if_pos (decide_eq_true hlisted)]
      exact congrArg (Option.map (·.2)) (hfound origin)
    · rw [if_neg (mt List.contains_iff_mem.mp hlisted), if_neg (mt of_decide_eq_true hlisted)]
      rfl

/-- The headers of a bare response say nothing about origins. -/
theorem header?_response_of_isBare {outcome : Outcome} (h : outcome.IsBare) (g : Settings) :
    (outcome.response origins g r).header? allowOrigin = r.listedOrigin? origins := by
  cases outcome with
  | crashed f => exact h.elim
  | answered a =>
    have hother : ("www-authenticate" : Text) ≠ allowOrigin := by decide
    have hnone : (a.headers.find? fun x => x.1 = allowOrigin) = none := by
      refine List.find?_eq_none.mpr fun x hx => ?_
      rw [h x hx]
      exact mt of_decide_eq_true hother
    have happend : ((a.headers ++ originHeaders origins r).find? fun x => x.1 = allowOrigin) =
        (originHeaders origins r).find? fun x => x.1 = allowOrigin := by
      rw [List.find?_append, hnone, Option.none_or]
    simp only [Response.header?, Outcome.response, happend]
    exact find?_originHeaders origins r

theorem header?_answerPreflight :
    (answerPreflight origins r).header? allowOrigin = r.listedOrigin? origins := by
  rw [← find?_originHeaders origins r]
  unfold answerPreflight Response.header?
  split <;> rfl

end Origin

/-- A request that is handed to the handler of its route. -/
structure Request.IsHandled (w : Framework) (r : Request) (g : Settings) (route : Route) :
    Prop where
  routed : r.RoutedTo route
  admitted : ∃ caller, g.authenticate r.key? = .ok caller
  decoded : r.decoding? w route = some (.ok ())

theorem Request.IsHandled.not_failsOn {w : Framework} {r : Request} {g : Settings} {route : Route}
    (h : r.IsHandled w g route) (f : Failure) : ¬r.FailsOn w g route f := by
  intro hfails
  have hdecoded := h.decoded
  cases hfails with
  | report hreport hunsent =>
    cases route with
    | root => cases hdecoded
    | health => cases hdecoded
    | _ => cases hreport
  | key hread hkey =>
    rw [Settings.keyFailure?_of_admitted h.admitted] at hkey
    cases hkey
  | faults hadmitted hread hunreported =>
    rw [hread] at hdecoded
    cases hdecoded

/-- A request with a failure that no route handles: a rating fails, or the request fails on its
route before an engine is asked. -/
def Request.IsUnhandled (w : Framework) (engine : Engine) (s : Service) (r : Request) : Prop :=
  (r.Consults w s.settings .analyzePassword ∧ ∃ f, s.failure? engine = some f) ∨
    ∃ route f, r.RoutedTo route ∧ r.FailsOn w s.settings route f

/-- How the headers of a response to a request come from the layers that it has passed. -/
structure Layered (w : Framework) (origins : List Text) (engine : Engine) (s : Service)
    (r : Request) (a : Response) : Prop where
  traced_iff : a.traced = true ↔ r.isPreflight = false ∧ ¬a.IsCrash s.settings
  isCrash_iff : a.IsCrash s.settings ↔ r.IsUnhandled w engine s
  traced_of_status : r.isPreflight = false → a.status ≠ 500 → a.traced = true
  /-- The handlers that take a configuration answer failures themselves. -/
  traced_of_handled : ∀ route, route = .analyzeFile ∨ route = .analyzeText →
    r.IsHandled w s.settings route → a.traced = true
  allowOrigin_iff : ∀ origin, a.header? allowOrigin = some origin ↔
    r.header? "origin" = some origin ∧ origin ∈ origins ∧ ¬a.IsCrash s.settings
  not_wildcard : a.header? allowOrigin ≠ some ("*" : Text)

theorem not_isCrash_of_traced {a : Response} {g : Settings} (h : a.traced = true) :
    ¬a.IsCrash g := by
  rintro ⟨f, rfl⟩
  cases h

theorem Request.listedOrigin?_eq_some_iff (r : Request) (origins : List Text) (origin : Text) :
    r.listedOrigin? origins = some origin ↔
      r.header? "origin" = some origin ∧ origin ∈ origins := by
  rw [listedOrigin?, Option.filter_eq_some_iff, decide_eq_true_eq]

section Layers

variable {w : Framework} {origins : List Text} {engine : Engine} {s : Service} {r : Request}

/-- An outcome can be sent on as it is, unless it is a failure that no route handles. -/
theorem isBare_or_isUnhandled (w : Framework) (engine : Engine) (s : Service) (r : Request) :
    (dispatch w engine s r).1.IsBare ∨
      r.IsUnhandled w engine s ∧ ∃ f, dispatch w engine s r = (.crashed f, s) := by
  rcases dispatch_cases w s r with
    ⟨outcome, hbare, hdispatch⟩ | ⟨route, f, hrouted, hfails⟩ | ⟨route, h⟩
  · rw [hdispatch]
    exact .inl hbare
  · have hcrashed := dispatch_of_failsOn w s r hrouted hfails engine
    exact .inr ⟨.inr ⟨route, f, hrouted, hfails⟩, f, hcrashed⟩
  cases hf : s.failure? engine with
  | none =>
    obtain ⟨value, hvalue⟩ := h.dispatch_of_no_failure hf
    rw [hvalue]
    exact .inl (Outcome.isBare_json 200 value)
  | some f =>
    have hfailed := h.dispatch_of_failure hf
    cases h.submits with
    | file => exact .inl (hfailed ▸ Outcome.isBare_refused _)
    | text => exact .inl (hfailed ▸ Outcome.isBare_refused _)
    | password => exact .inr ⟨.inl ⟨h, f, hf⟩, f, hfailed⟩

theorem not_isBare_of_isUnhandled (h : r.IsUnhandled w engine s) :
    ¬(dispatch w engine s r).1.IsBare := by
  intro hbare
  rcases h with ⟨hconsults, f, hf⟩ | ⟨route, f, hrouted, hfails⟩
  · rw [hconsults.dispatch_of_failure hf] at hbare
    exact hbare
  · rw [dispatch_of_failsOn w s r hrouted hfails] at hbare
    exact hbare

theorem Request.IsUnhandled.isPreflight_eq_false (h : r.IsUnhandled w engine s) :
    r.isPreflight = false := by
  rcases h with ⟨hconsults, -⟩ | ⟨route, f, hrouted, -⟩
  · exact hconsults.routed.isPreflight_eq_false
  · exact hrouted.isPreflight_eq_false

theorem Request.IsUnhandled.not_isHandled (h : r.IsUnhandled w engine s) {route : Route}
    (hroute : route = .analyzeFile ∨ route = .analyzeText) : ¬r.IsHandled w s.settings route := by
  intro hhandled
  rcases h with ⟨hconsults, -⟩ | ⟨other, f, hrouted, hfails⟩
  · rcases hroute with rfl | rfl
    · cases hconsults.routed.unique hhandled.routed
    · cases hconsults.routed.unique hhandled.routed
  · obtain rfl := hrouted.unique hhandled.routed
    exact hhandled.not_failsOn f hfails

theorem traced_response {outcome : Outcome} (h : outcome.IsBare) (origins : List Text)
    (g : Settings) (r : Request) : (outcome.response origins g r).traced = true := by
  cases outcome with
  | answered a => rfl
  | crashed f => exact h.elim

theorem listedOrigin?_ne_wildcard (hstar : ("*" : Text) ∉ origins) :
    r.listedOrigin? origins ≠ some ("*" : Text) := by
  intro h
  exact hstar ((r.listedOrigin?_eq_some_iff origins _).mp h).2

theorem layered_preflight (hstar : ("*" : Text) ∉ origins) (h : r.isPreflight = true) :
    Layered w origins engine s r (answerPreflight origins r) := by
  have hcrash : ¬(answerPreflight origins r).IsCrash s.settings := by
    rintro ⟨f, hf⟩
    have hpayload := congrArg Response.payload hf
    unfold answerPreflight at hpayload
    split at hpayload <;> cases hpayload
  have htraced : (answerPreflight origins r).traced = false := by
    unfold answerPreflight
    split <;> rfl
  constructor
  · simp [htraced, h]
  · refine iff_of_false hcrash fun hunhandled => ?_
    cases h.symm.trans hunhandled.isPreflight_eq_false
  · intro hpreflight
    cases h.symm.trans hpreflight
  · intro route _ hhandled
    cases h.symm.trans hhandled.routed.isPreflight_eq_false
  · intro origin
    rw [header?_answerPreflight, r.listedOrigin?_eq_some_iff, and_iff_left hcrash]
  · rw [header?_answerPreflight]
    exact listedOrigin?_ne_wildcard hstar

theorem layered_of_isBare (hstar : ("*" : Text) ∉ origins) (hpreflight : r.isPreflight = false)
    (hbare : (dispatch w engine s r).1.IsBare) (g : Settings) :
    Layered w origins engine s r ((dispatch w engine s r).1.response origins g r) := by
  have htraced := traced_response hbare origins g r
  have hcrash := not_isCrash_of_traced (g := s.settings) htraced
  have hheader := header?_response_of_isBare origins r hbare g
  constructor
  · exact iff_of_true htraced ⟨hpreflight, hcrash⟩
  · exact iff_of_false hcrash fun hunhandled => not_isBare_of_isUnhandled hunhandled hbare
  · exact fun _ _ => htraced
  · exact fun _ _ _ => htraced
  · intro origin
    rw [hheader, r.listedOrigin?_eq_some_iff, and_iff_left hcrash]
  · rw [hheader]
    exact listedOrigin?_ne_wildcard hstar

theorem layered_of_isUnhandled (h : r.IsUnhandled w engine s) (f : Failure) :
    Layered w origins engine s r (answerCrash s.settings f) := by
  have hcrash : (answerCrash s.settings f).IsCrash s.settings := ⟨f, rfl⟩
  constructor
  · exact iff_of_false Bool.false_ne_true fun hneither => hneither.2 hcrash
  · exact iff_of_true hcrash h
  · intro _ hstatus
    exact absurd rfl hstatus
  · exact fun route hroute hhandled => absurd hhandled (h.not_isHandled hroute)
  · intro origin
    exact iff_of_false nofun fun hlisted => hlisted.2.2 hcrash
  · exact nofun

/-- Whatever is requested, and whether or not the engine fails, a response carries the headers of
the layers that it has passed. -/
theorem respond_layered (hstar : ("*" : Text) ∉ origins) (w : Framework) (engine : Engine)
    (s : Service) (r : Request) :
    Layered w origins engine s r (respond w origins engine s r).1 := by
  cases hpreflight : r.isPreflight with
  | true =>
    rw [respond_of_isPreflight origins hpreflight]
    exact layered_preflight hstar hpreflight
  | false =>
    rcases isBare_or_isUnhandled w engine s r with hbare | ⟨hunhandled, f, hdispatch⟩
    · rw [respond_of_dispatch origins hpreflight rfl]
      exact layered_of_isBare hstar hpreflight hbare _
    · rw [respond_of_dispatch origins hpreflight hdispatch]
      exact layered_of_isUnhandled hunhandled f

end Layers

/-- A configuration sent by a page of a listed origin. -/
def fromListed : Request where
  method := "POST"
  path := "/api/v1/analyze-text"
  headers := [("Origin", "http://localhost:3000")]
  body := .json (.obj [("configText", .str "interface Gi0/1")])

/-- A member that has no JSON in the place of one that is missing. -/
def unreportable : Request where
  method := "POST"
  path := "/api/v1/analyze-text"
  headers := [("Origin", "http://localhost:3000")]
  body := .json (.obj [("config", .real "NaN")])

theorem respond_layered_fromListed :
    ("*" : Text) ∉ standardOrigins ∧
    (respond .standard standardOrigins (.failing "down") {} fromListed).1.traced = true ∧
    (respond .standard standardOrigins (.failing "down") {} fromListed).1.header? allowOrigin =
      some ("http://localhost:3000" : Text) ∧
    (respond .standard standardOrigins .working {} unreportable).1.traced = false := by
  have hstar : ("*" : Text) ∉ standardOrigins := by decide
  have hlayered := respond_layered hstar .standard (.failing "down") {} fromListed
  have hhandled : fromListed.IsHandled .standard {} .analyzeText :=
    ⟨⟨rfl, rfl⟩, ⟨.anonymous, rfl⟩, rfl⟩
  have htraced := hlayered.traced_of_handled _ (.inr rfl) hhandled
  have horigin := (hlayered.allowOrigin_iff "http://localhost:3000").mpr
    ⟨rfl, by decide, not_isCrash_of_traced htraced⟩
  have hother := respond_layered hstar .standard .working {} unreportable
  have hcrash := hother.isCrash_iff.mpr (.inr ⟨.analyzeText, _, ⟨rfl, rfl⟩,
    .faults ⟨.anonymous, rfl⟩ rfl rfl⟩)
  refine ⟨hstar, htraced, horigin, Bool.eq_false_iff.mpr fun hmarked => ?_⟩
  exact (hother.traced_iff.mp hmarked).2 hcrash

end ConfigAudit.Http
