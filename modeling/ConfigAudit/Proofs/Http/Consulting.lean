import ConfigAudit.Proofs.Http.Access
import ConfigAudit.Proofs.Service.Calls

/-! Requests that get as far as the engine. All others are answered alike by every engine, or fail
alike on their route, and leave the service as it is. -/
namespace ConfigAudit

namespace Service

/-- Why an engine gives no analysis, if it gives none. -/
def failure? (s : Service) : Engine → Option Failure
  | .failing message => some (.engine message)
  | .working =>
    match s.obtainAuditor.1 with
    | .ok _ => none
    | .error f => some f

variable {s : Service} {engine : Engine}

/-- An auditor that cannot be had leaves the service as it is. -/
theorem obtainAuditor_of_failure {f : Failure} (h : s.failure? .working = some f) :
    s.obtainAuditor = (.error f, s) := by
  unfold failure? at h
  cases hkept : s.auditor with
  | some a =>
    rw [obtainAuditor_of_some hkept] at h
    cases h
  | none =>
    cases hmade : s.settings.newAuditor with
    | ok a =>
      rw [obtainAuditor_of_ok hkept hmade] at h
      cases h
    | error f' =>
      rw [obtainAuditor_of_error hkept hmade] at h ⊢
      rw [Option.some.inj h]

theorem exists_obtainAuditor_of_no_failure (h : s.failure? .working = none) :
    ∃ a, s.obtainAuditor.1 = .ok a := by
  unfold failure? at h
  cases hobtain : s.obtainAuditor.1 with
  | ok a => exact ⟨a, rfl⟩
  | error f =>
    rw [hobtain] at h
    cases h

theorem tryAnalyze_of_failure {f : Failure} (h : s.failure? engine = some f) (subject : Subject)
    (config : Text) (password : Option Text) :
    s.tryAnalyze engine subject config password = (.error (s.settings.failure subject f), s) := by
  cases engine with
  | failing message =>
    rw [← Option.some.inj h]
    rfl
  | working =>
    rw [tryAnalyze_working, obtainAuditor_of_failure h]
    rfl

theorem tryAnalyze_of_no_failure (h : s.failure? engine = none) (subject : Subject) (config : Text)
    (password : Option Text) : ∃ a, (s.tryAnalyze engine subject config password).1 = .ok a := by
  cases engine with
  | failing message => cases h
  | working =>
    obtain ⟨a, ha⟩ := exists_obtainAuditor_of_no_failure h
    rw [tryAnalyze_working, ha]
    exact ⟨_, rfl⟩

theorem handlePassword_of_failure {f : Failure} (h : s.failure? engine = some f)
    (p : PasswordRequest) : s.handlePassword engine p = (.error f, s) := by
  cases engine with
  | failing message =>
    rw [← Option.some.inj h]
    rfl
  | working =>
    rw [handlePassword, analyzePassword, obtainAuditor_of_failure h]
    rfl

theorem handlePassword_of_no_failure (h : s.failure? engine = none) (p : PasswordRequest) :
    ∃ a, (s.handlePassword engine p).1 = .ok a := by
  cases engine with
  | failing message => cases h
  | working =>
    obtain ⟨a, ha⟩ := exists_obtainAuditor_of_no_failure h
    simp only [handlePassword, analyzePassword, ha]
    exact ⟨_, rfl⟩

end Service

namespace Http

/-- The route that a request is run by. -/
def Request.RoutedTo (r : Request) (route : Route) : Prop :=
  Route.all.find? (·.matches r.path) = some route ∧ r.method = route.method

namespace Request.RoutedTo

variable {r : Request} {route other : Route}

theorem unique (h : r.RoutedTo route) (h' : r.RoutedTo other) : route = other :=
  Option.some.inj (h.1.symm.trans h'.1)

theorem isPreflight_eq_false (h : r.RoutedTo route) : r.isPreflight = false := by
  have hmethod : r.method ≠ "OPTIONS" := by
    rw [h.2]
    cases route <;> decide
  rw [isPreflight, decide_eq_false hmethod]
  rfl

end Request.RoutedTo

/-- How the body of a request is decoded for a route, if that route reads it. -/
def Request.decoding? (w : Framework) (r : Request) : Route → Option (Decoded Unit)
  | .root | .health => none
  | .analyzeFile => (r.fileForm w).toOption.map ((fun _ => ()) <$> ·)
  | .analyzeText => (r.record w TextRequest.fields).toOption.map ((fun _ => ()) <$> ·)
  | .analyzePassword => (r.record w PasswordRequest.fields).toOption.map ((fun _ => ()) <$> ·)

/-- The ways in which a request fails on a route before an engine is asked. -/
inductive Request.FailsOn (w : Framework) (g : Settings) (r : Request) (route : Route) :
    Failure → Prop where
  /-- What the route tells of the service cannot be sent. -/
  | report {value : Json} {f : Failure} (hreport : route.report? g = some value)
      (hunsent : w.unsent? value = some f) : FailsOn w g r route f
  /-- The key that was sent cannot be compared with the one in the settings. -/
  | key {decoded : Decoded Unit} {f : Failure} (hread : r.decoding? w route = some decoded)
      (hkey : g.keyFailure? r.key? = some f) : FailsOn w g r route f
  /-- The faults of the body cannot be sent. -/
  | faults {faults : List Fault} {f : Failure}
      (hadmitted : ∃ caller, g.authenticate r.key? = .ok caller)
      (hread : r.decoding? w route = some (.faulty faults))
      (hunreported : w.unreported? r.mediaType r.body faults = some f) : FailsOn w g r route f

/-- What a request sends to a route passes everything in front of the engine but the key. -/
inductive Request.Submits (w : Framework) (r : Request) (g : Settings) : Route → Prop where
  | file {form : FileForm} {f : AcceptedFile} (hbody : r.fileForm w = .ok (.ok form))
      (haccept : g.acceptFile (form.file.or form.configFile) = .ok f) : Submits w r g .analyzeFile
  | text {t : TextRequest} (hbody : r.record w TextRequest.fields = .ok (.ok t))
      (hgates : g.textRefusal? t.configText = none) : Submits w r g .analyzeText
  | password {p : PasswordRequest} (hbody : r.record w PasswordRequest.fields = .ok (.ok p)) :
    Submits w r g .analyzePassword

/-- A request of which the engine is asked for an analysis. -/
structure Request.Consults (w : Framework) (r : Request) (g : Settings) (route : Route) : Prop where
  routed : r.RoutedTo route
  admitted : ∃ caller, g.authenticate r.key? = .ok caller
  submits : r.Submits w g route

/-- What a route makes of an analysis that has failed. -/
def Route.failed (g : Settings) (f : Failure) : Route → Outcome
  | .analyzeFile => .refused (g.failure .file f)
  | .analyzeText => .refused (g.failure .text f)
  | _ => .crashed f

/-- A response whose headers are a challenge at most. -/
def Outcome.IsBare : Outcome → Prop
  | .answered a => ∀ h ∈ a.headers, h.1 = ("www-authenticate" : Text)
  | .crashed _ => False

namespace Outcome

theorem isBare_json (status : Nat) (value : Json) : (json status value).IsBare := by
  intro h hmem
  cases hmem

theorem isBare_refused (refusal : Refusal) : (refused refusal).IsBare := by
  intro h hmem
  dsimp only at hmem
  split_ifs at hmem
  · rw [List.mem_singleton.mp hmem]
  · cases hmem

theorem isBare_ofFormFault (fault : FormFault) : (ofFormFault fault).IsBare := isBare_json _ _

theorem isBare_ofJsonFault (fault : JsonFault) : (ofJsonFault fault).IsBare := by
  cases fault with
  | malformed position => exact isBare_json _ _
  | unreadable => exact isBare_json _ _

theorem isBare_answer (page : Page) (w : Framework) (r : Request) : (page.answer w r).IsBare := by
  unfold Page.answer
  split_ifs
  · exact nofun
  · exact isBare_json _ _

end Outcome

section Guarded

variable {w : Framework} {s : Service} {r : Request} {α : Type} (run : α → Outcome × Service)

theorem guarded_of_keyFailure {f : Failure} (h : s.settings.keyFailure? r.key? = some f)
    (decoded : Decoded α) : guarded w s r (.ok decoded) run = (.crashed f, s) := by
  have hkey : s.settings.keyFailure? (r.header? "x-api-key") = some f := h
  unfold guarded
  dsimp only
  rw [hkey]

variable (hadmitted : ∃ caller, s.settings.authenticate r.key? = .ok caller)
include hadmitted

theorem guarded_of_faulty (faults : List Fault) :
    guarded w s r (.ok (.faulty faults)) run = (w.refuse r faults, s) :=
  guarded_of_admitted hadmitted (.faulty faults) run

theorem guarded_of_ok (a : α) : guarded w s r (.ok (.ok a)) run = run a :=
  guarded_of_admitted hadmitted (.ok a) run

end Guarded

section Routes

variable (w : Framework) (s : Service) (r : Request)

/-- A guarded analysis is not run, or else it is run on the body for a caller that is let in. -/
theorem guarded_cases {ε α : Type} (route : Route) (body : Except ε (Decoded α))
    {answer : ε → Outcome} (hanswer : ∀ fault, (answer fault).IsBare)
    (hread : r.decoding? w route = body.toOption.map ((fun _ => ()) <$> ·)) :
    (∃ outcome : Outcome, outcome.IsBare ∧
        ∀ run, guarded w s r (body.mapError answer) run = (outcome, s)) ∨
      (∃ f, r.FailsOn w s.settings route f) ∨
      ∃ a, body = .ok (.ok a) ∧ ∃ caller, s.settings.authenticate r.key? = .ok caller := by
  cases body with
  | error fault => exact .inl ⟨answer fault, hanswer fault, fun _ => rfl⟩
  | ok decoded =>
    cases hkey : s.settings.keyFailure? r.key? with
    | some f => exact .inr (.inl ⟨f, .key hread hkey⟩)
    | none =>
      cases hauth : s.settings.authenticate r.key? with
      | error refusal =>
        refine .inl ⟨.refused refusal, Outcome.isBare_refused refusal, fun run => ?_⟩
        exact guarded_of_error hkey hauth rfl run
      | ok caller =>
        have hadmitted : ∃ caller, s.settings.authenticate r.key? = .ok caller := ⟨caller, hauth⟩
        cases decoded with
        | ok a => exact .inr (.inr ⟨a, rfl, caller, rfl⟩)
        | faulty faults =>
          cases hsent : w.unreported? r.mediaType r.body faults with
          | some f => exact .inr (.inl ⟨f, .faults hadmitted hread hsent⟩)
          | none =>
            refine .inl ⟨.invalid faults, Outcome.isBare_json _ _, fun run => ?_⟩
            have hrefuse : w.refuse r faults = .invalid faults := by
              rw [Framework.refuse, hsent]
            rw [← hrefuse]
            exact guarded_of_faulty run hadmitted faults

/-- A route that reads the body is guarded. -/
theorem Route.exists_run_eq_guarded {route : Route} {decoded : Decoded Unit}
    (h : r.decoding? w route = some decoded) (engine : Engine) :
    ∃ (α : Type) (body : Decoded α) (run : α → Outcome × Service),
      route.run w engine s r = guarded w s r (.ok body) run ∧ (fun _ => ()) <$> body = decoded := by
  cases route with
  | root => cases h
  | health => cases h
  | analyzeFile =>
    obtain ⟨form, hform, hdecoded⟩ := Option.map_eq_some_iff.mp h
    rw [toOption_eq_some_iff] at hform
    exact ⟨_, form, _, by rw [Route.run, hform, Except.mapError], hdecoded⟩
  | analyzeText =>
    obtain ⟨record, hrecord, hdecoded⟩ := Option.map_eq_some_iff.mp h
    rw [toOption_eq_some_iff] at hrecord
    exact ⟨_, record, _, by rw [Route.run, hrecord, Except.mapError], hdecoded⟩
  | analyzePassword =>
    obtain ⟨record, hrecord, hdecoded⟩ := Option.map_eq_some_iff.mp h
    rw [toOption_eq_some_iff] at hrecord
    exact ⟨_, record, _, by rw [Route.run, hrecord, Except.mapError], hdecoded⟩

/-- A request that fails on its route leaves the failure to others. -/
theorem Route.run_of_failsOn {route : Route} {f : Failure} (h : r.FailsOn w s.settings route f)
    (engine : Engine) : route.run w engine s r = (.crashed f, s) := by
  cases h with
  | report hreport hunsent => rw [Route.run_of_report? hreport, Framework.report, hunsent]
  | key hread hkey =>
    obtain ⟨α, body, run, hrun, -⟩ := Route.exists_run_eq_guarded w s r hread engine
    rw [hrun, guarded_of_keyFailure run hkey]
  | faults hadmitted hread hunreported =>
    obtain ⟨α, body, run, hrun, hbody⟩ := Route.exists_run_eq_guarded w s r hread engine
    cases body with
    | ok a => cases hbody
    | faulty faults =>
      cases hbody
      rw [hrun, guarded_of_faulty run hadmitted, Framework.refuse, hunreported]

/-- A route answers without the engine, or the request fails on it, or else it is let in and passes
its gates. -/
theorem Route.run_cases (route : Route) :
    (∃ outcome : Outcome, outcome.IsBare ∧ ∀ engine, route.run w engine s r = (outcome, s)) ∨
      (∃ f, r.FailsOn w s.settings route f) ∨
      ((∃ caller, s.settings.authenticate r.key? = .ok caller) ∧ r.Submits w s.settings route) := by
  have hreport (value : Json) (hroute : route.report? s.settings = some value) :
      (∃ outcome : Outcome, outcome.IsBare ∧ ∀ engine, route.run w engine s r = (outcome, s)) ∨
        ∃ f, r.FailsOn w s.settings route f := by
    cases hsent : w.unsent? value with
    | some f => exact .inr ⟨f, .report hroute hsent⟩
    | none =>
      refine .inl ⟨_, Outcome.isBare_json 200 value, fun engine => ?_⟩
      rw [Route.run_of_report? hroute, Framework.report_of_sent hsent]
  cases route with
  | root => exact (hreport _ rfl).imp_right .inl
  | health => exact (hreport _ rfl).imp_right .inl
  | analyzeFile =>
    rcases guarded_cases w s r .analyzeFile (r.fileForm w) Outcome.isBare_ofFormFault rfl with
      ⟨outcome, hbare, hrun⟩ | hfails | ⟨form, hbody, hadmitted⟩
    · exact .inl ⟨outcome, hbare, fun engine => hrun _⟩
    · exact .inr (.inl hfails)
    cases haccept : s.settings.acceptFile (form.file.or form.configFile) with
    | ok f => exact .inr (.inr ⟨hadmitted, .file hbody haccept⟩)
    | error refusal =>
      refine .inl ⟨.refused refusal, Outcome.isBare_refused refusal, fun engine => ?_⟩
      rw [Route.run, hbody, Except.mapError, guarded_of_ok _ hadmitted, Service.handleFile, haccept]
      rfl
  | analyzeText =>
    rcases guarded_cases w s r .analyzeText (r.record w TextRequest.fields)
      Outcome.isBare_ofJsonFault rfl with
      ⟨outcome, hbare, hrun⟩ | hfails | ⟨t, hbody, hadmitted⟩
    · exact .inl ⟨outcome, hbare, fun engine => hrun _⟩
    · exact .inr (.inl hfails)
    cases hgates : s.settings.textRefusal? t.configText with
    | none => exact .inr (.inr ⟨hadmitted, .text hbody hgates⟩)
    | some refusal =>
      refine .inl ⟨.refused refusal, Outcome.isBare_refused refusal, fun engine => ?_⟩
      rw [Route.run, hbody, Except.mapError, guarded_of_ok _ hadmitted, Service.handleText, hgates]
      rfl
  | analyzePassword =>
    rcases guarded_cases w s r .analyzePassword (r.record w PasswordRequest.fields)
      Outcome.isBare_ofJsonFault rfl with
      ⟨outcome, hbare, hrun⟩ | hfails | ⟨p, hbody, hadmitted⟩
    · exact .inl ⟨outcome, hbare, fun engine => hrun _⟩
    · exact .inr (.inl hfails)
    · exact .inr (.inr ⟨hadmitted, .password hbody⟩)

theorem dispatch_of_routedTo {route : Route} (h : r.RoutedTo route) (engine : Engine) :
    dispatch w engine s r = route.run w engine s r := by
  rw [dispatch, Page.find?_eq_none h.1, h.1]
  exact if_pos h.2

/-- A request is answered without the engine, or fails on its route, or else it consults it. -/
theorem dispatch_cases :
    (∃ outcome : Outcome, outcome.IsBare ∧ ∀ engine, dispatch w engine s r = (outcome, s)) ∨
      (∃ route f, r.RoutedTo route ∧ r.FailsOn w s.settings route f) ∨
      ∃ route, r.Consults w s.settings route := by
  cases hpage : Page.all.find? (·.matches r.path) with
  | some page =>
    refine .inl ⟨page.answer w r, Outcome.isBare_answer page w r, fun engine => ?_⟩
    rw [dispatch, hpage]
  | none =>
    cases hfind : Route.all.find? (·.matches r.path) with
    | none =>
      refine .inl ⟨.detail 404 "Not Found", Outcome.isBare_json _ _, fun engine => ?_⟩
      rw [dispatch, hpage, hfind]
    | some route =>
      by_cases hmethod : r.method = route.method
      · have hrouted : r.RoutedTo route := ⟨hfind, hmethod⟩
        rcases route.run_cases w s r with
          ⟨outcome, hbare, hrun⟩ | ⟨f, hfails⟩ | ⟨hadmitted, hsubmits⟩
        · refine .inl ⟨outcome, hbare, fun engine => ?_⟩
          rw [dispatch_of_routedTo w s r hrouted, hrun]
        · exact .inr (.inl ⟨route, f, hrouted, hfails⟩)
        · exact .inr (.inr ⟨route, hrouted, hadmitted, hsubmits⟩)
      · refine .inl ⟨.detail 405 "Method Not Allowed", Outcome.isBare_json _ _, fun engine => ?_⟩
        rw [dispatch, hpage, hfind]
        exact if_neg hmethod

theorem dispatch_of_failsOn {route : Route} {f : Failure} (hrouted : r.RoutedTo route)
    (h : r.FailsOn w s.settings route f) (engine : Engine) :
    dispatch w engine s r = (.crashed f, s) := by
  rw [dispatch_of_routedTo w s r hrouted, Route.run_of_failsOn w s r h]

end Routes

namespace Request.Consults

variable {w : Framework} {s : Service} {r : Request} {route : Route}
  (h : r.Consults w s.settings route)
include h

theorem dispatch_of_failure {engine : Engine} {f : Failure} (hf : s.failure? engine = some f) :
    dispatch w engine s r = (route.failed s.settings f, s) := by
  rw [dispatch_of_routedTo w s r h.routed]
  cases h.submits with
  | file hbody haccept =>
    rw [Route.run, hbody, Except.mapError, guarded_of_ok _ h.admitted, Service.handleFile, haccept]
    dsimp only
    rw [Service.tryAnalyze_of_failure hf]
    rfl
  | text hbody hgates =>
    rw [Route.run, hbody, Except.mapError, guarded_of_ok _ h.admitted, Service.handleText, hgates]
    dsimp only
    rw [Service.tryAnalyze_of_failure hf]
    rfl
  | password hbody =>
    rw [Route.run, hbody, Except.mapError, guarded_of_ok _ h.admitted,
      Service.handlePassword_of_failure hf]
    rfl

theorem dispatch_of_no_failure {engine : Engine} (hf : s.failure? engine = none) :
    ∃ value, (dispatch w engine s r).1 = .json 200 value := by
  rw [dispatch_of_routedTo w s r h.routed]
  cases h.submits with
  | @file form f hbody haccept =>
    obtain ⟨a, ha⟩ := Service.tryAnalyze_of_no_failure hf .file f.config form.password
    rw [Route.run, hbody, Except.mapError, guarded_of_ok _ h.admitted, Service.handleFile, haccept]
    dsimp only
    rw [ha]
    exact ⟨_, rfl⟩
  | @text t hbody hgates =>
    obtain ⟨a, ha⟩ := Service.tryAnalyze_of_no_failure hf .text t.configText t.password
    rw [Route.run, hbody, Except.mapError, guarded_of_ok _ h.admitted, Service.handleText, hgates]
    dsimp only
    rw [ha]
    exact ⟨_, rfl⟩
  | @password p hbody =>
    obtain ⟨a, ha⟩ := Service.handlePassword_of_no_failure hf p
    rw [Route.run, hbody, Except.mapError, guarded_of_ok _ h.admitted]
    split
    · exact ⟨_, rfl⟩
    · rename_i hfailed
      rw [hfailed] at ha
      cases ha

end Request.Consults

/-- The response that an outcome becomes on its way out. -/
def Outcome.response (outcome : Outcome) (origins : List Text) (g : Settings) (r : Request) :
    Response :=
  match outcome with
  | .crashed f => answerCrash g f
  | .answered a => { a with headers := a.headers ++ originHeaders origins r, traced := true }

section Respond

variable {w : Framework} {engine : Engine} {s s' : Service} {r : Request} (origins : List Text)

theorem respond_of_isPreflight (h : r.isPreflight = true) :
    respond w origins engine s r = (answerPreflight origins r, s) := if_pos h

theorem respond_of_dispatch (h : r.isPreflight = false) {outcome : Outcome}
    (hdispatch : dispatch w engine s r = (outcome, s')) :
    respond w origins engine s r = (outcome.response origins s'.settings r, s') := by
  unfold respond
  rw [h, hdispatch]
  cases outcome <;> rfl

end Respond

end Http
end ConfigAudit
