import ConfigAudit.Http.Application
import ConfigAudit.Http.Standard
import ConfigAudit.Proofs.Http.Form
import ConfigAudit.Proofs.Service.Access

/-! The key in front of the analyses. Who does not send it learns nothing from any body, and who
does is answered as if there were none. -/
namespace ConfigAudit

/-- The service presents itself by texts, as these settings are declared. -/
structure Settings.IsNamed (g : Settings) : Prop where
  name : ∃ t, g.appName = .proper t
  version : ∃ t, g.appVersion = .proper t
  environment : ∃ t, g.appEnv = .proper t

namespace Http

namespace Request

/-- A request for a route, by the method and at the path of that route. -/
def AsksFor (r : Request) (route : Route) : Prop := r.method = route.method ∧ r.path = route.path

/-- The header that a key is sent in. -/
def keyName : Text := "x-api-key"

/-- What a request sends as its key. -/
def key? (r : Request) : Option Text := r.header? keyName

/-- A request without anything that it sends as a key. -/
def withoutKey (r : Request) : Request :=
  { r with headers := r.headers.filter fun h => asciiLower h.1 ≠ keyName }

theorem header?_withoutKey (r : Request) {name : Text} (hname : asciiLower name ≠ keyName) :
    r.withoutKey.header? name = r.header? name := by
  unfold header? withoutKey
  rw [List.find?_filter]
  congr 2
  funext h
  by_cases hh : asciiLower h.1 = asciiLower name <;> simp [hh, hname]

theorem mediaType_withoutKey (r : Request) : r.withoutKey.mediaType = r.mediaType := by
  unfold mediaType
  rw [header?_withoutKey r (by decide)]
  rfl

theorem isPreflight_withoutKey (r : Request) : r.withoutKey.isPreflight = r.isPreflight := by
  unfold isPreflight
  rw [header?_withoutKey r (by decide), header?_withoutKey r (by decide)]
  rfl

theorem originHeaders_withoutKey (origins : List Text) (r : Request) :
    originHeaders origins r.withoutKey = originHeaders origins r := by
  rw [originHeaders, header?_withoutKey r (by decide), originHeaders]

theorem answerPreflight_withoutKey (origins : List Text) (r : Request) :
    answerPreflight origins r.withoutKey = answerPreflight origins r := by
  have hfailures : preflightFailures origins r.withoutKey = preflightFailures origins r := by
    unfold preflightFailures
    rw [header?_withoutKey r (by decide), header?_withoutKey r (by decide),
      header?_withoutKey r (by decide)]
  unfold answerPreflight
  rw [originHeaders_withoutKey, hfailures]

theorem fileForm_withoutKey (w : Framework) (r : Request) :
    r.withoutKey.fileForm w = r.fileForm w := by
  unfold fileForm Request.parts
  rw [mediaType_withoutKey]
  rfl

theorem record_withoutKey (w : Framework) {α : Type} (r : Request)
    (fields : List (Text × Json) → Decoded α) :
    r.withoutKey.record w fields = r.record w fields := by
  unfold record
  rw [mediaType_withoutKey]
  rfl

theorem refuse_withoutKey (w : Framework) (r : Request) (faults : List Fault) :
    w.refuse r.withoutKey faults = w.refuse r faults := by
  unfold Framework.refuse
  rw [mediaType_withoutKey]
  rfl

end Request

/-- The analyses, which the key is asked for. -/
def Route.analyses : List Route := [.analyzeFile, .analyzeText, .analyzePassword]

/-- The answer to a caller that is not let in. It depends on the origin of the request alone. -/
def unauthorized (origins : List Text) (r : Request) (message : Text) : Response where
  status := 401
  payload := .json (.obj [("detail", .str message)])
  headers := ("www-authenticate", "ApiKey") :: originHeaders origins r
  traced := true

/-- What a route tells of the service, if it tells nothing else. -/
def Route.report? (g : Settings) : Route → Option Json
  | root => some (welcome g)
  | health => some (healthReport g)
  | _ => none

section Reports

variable {w : Framework} {route : Route} {value : Json}

theorem Route.run_of_report? {s : Service} (h : route.report? s.settings = some value)
    (engine : Engine) (r : Request) : route.run w engine s r = (w.report value, s) := by
  cases route with
  | root =>
    cases h
    rfl
  | health =>
    cases h
    rfl
  | _ => cases h

theorem unsent?_of_report? {g : Settings} (hnamed : g.IsNamed) (h : route.report? g = some value) :
    w.unsent? value = none := by
  obtain ⟨⟨name, hname⟩, ⟨version, hversion⟩, ⟨environment, henvironment⟩⟩ := hnamed
  cases route with
  | root =>
    obtain rfl : welcome g = value := Option.some.inj h
    unfold welcome title
    rw [hname, hversion]
    refine w.sends_texts _ ?_
    simp only [List.forall_mem_cons]
    exact ⟨.inl ⟨_, rfl⟩, .inl ⟨_, rfl⟩, .inl ⟨_, rfl⟩, .inl ⟨_, rfl⟩, .inr ⟨_, rfl⟩, nofun⟩
  | health =>
    obtain rfl : healthReport g = value := Option.some.inj h
    unfold healthReport
    rw [hname, henvironment]
    refine w.sends_texts _ ?_
    simp only [List.forall_mem_cons]
    exact ⟨.inl ⟨_, rfl⟩, .inl ⟨_, rfl⟩, .inl ⟨_, rfl⟩, nofun⟩
  | _ => cases h

end Reports

theorem Framework.report_of_sent {w : Framework} {value : Json} (h : w.unsent? value = none) :
    w.report value = .json 200 value := by
  rw [report, h]

theorem Route.find?_matches (route : Route) : all.find? (·.matches route.path) = some route := by
  cases route <;> decide

/-- No page stands where a route leads. -/
theorem Page.find?_eq_none {path : Text} {route : Route}
    (h : Route.all.find? (·.matches path) = some route) :
    all.find? (·.matches path) = none := by
  have hpath : path = route.path ∨ path = route.path ++ ['\n'] := by
    have hmatches := List.find?_some h
    simpa [Route.matches, isPath] using hmatches
  rcases hpath with rfl | rfl <;> cases route <;> decide

section Dispatch

variable {w : Framework} {r : Request} {route : Route} (h : r.AsksFor route) (origins : List Text)
  (engine : Engine) (s : Service)
include h

theorem dispatch_of_asksFor : dispatch w engine s r = route.run w engine s r := by
  have hroute := route.find?_matches
  rw [dispatch, h.2, Page.find?_eq_none hroute, hroute]
  exact if_pos h.1

theorem isPreflight_of_asksFor : r.isPreflight = false := by
  have hmethod : route.method ≠ "OPTIONS" := by
    cases route <;> decide
  rw [Request.isPreflight, h.1, decide_eq_false hmethod]
  rfl

theorem respond_of_answered {a : Response} {s' : Service}
    (hrun : route.run w engine s r = (.answered a, s')) :
    respond w origins engine s r =
      ({ a with headers := a.headers ++ originHeaders origins r, traced := true }, s') := by
  rw [respond, isPreflight_of_asksFor h, dispatch_of_asksFor h, hrun]
  rfl

end Dispatch

section Refused

variable {w : Framework} {s : Service} {r : Request} {refusal : Refusal}
  (hencoded : s.settings.keyFailure? r.key? = none)
  (hauth : s.settings.authenticate r.key? = .error refusal)
include hencoded hauth

/-- Of a body that can be read, nothing is looked at before the key. -/
theorem guarded_of_error {α : Type} {body : Except Outcome (Decoded α)} {decoded : Decoded α}
    (hbody : body = .ok decoded) (run : α → Outcome × Service) :
    guarded w s r body run = (.refused refusal, s) := by
  have hfailure : s.settings.keyFailure? (r.header? "x-api-key") = none := hencoded
  have hkey : s.settings.authenticate (r.header? "x-api-key") = .error refusal := hauth
  unfold guarded
  rw [hbody]
  dsimp only
  rw [hfailure]
  dsimp only
  rw [hkey]

theorem run_of_error {route : Route} (hroute : route ∈ Route.analyses) (hbody : r.WellFormed w)
    (hlimits : route = .analyzeFile → r.FormWithinLimits w) (engine : Engine) :
    route.run w engine s r = (.refused refusal, s) := by
  have hrecord {α : Type} (fields : List (Text × Json) → Decoded α) :
      ∃ decoded, (r.record w fields).mapError Outcome.ofJsonFault = .ok decoded := by
    obtain ⟨decoded, hdecoded⟩ := Request.exists_record_eq_ok hbody fields
    rw [hdecoded]
    exact ⟨decoded, rfl⟩
  simp only [Route.analyses, List.mem_cons, List.not_mem_nil, or_false] at hroute
  rcases hroute with rfl | rfl | rfl
  · obtain ⟨parts, hparts⟩ := Request.exists_parts_eq_ok hbody (hlimits rfl)
    have hform : (r.fileForm w).mapError Outcome.ofFormFault = .ok (FileForm.ofParts w parts) := by
      rw [Request.fileForm, hparts]
      rfl
    exact guarded_of_error hencoded hauth hform _
  · obtain ⟨decoded, hdecoded⟩ := hrecord TextRequest.fields
    exact guarded_of_error hencoded hauth hdecoded _
  · obtain ⟨decoded, hdecoded⟩ := hrecord PasswordRequest.fields
    exact guarded_of_error hencoded hauth hdecoded _

/-- Who is sent for a key is answered alike, whatever the body, and leaves the service as it is. -/
theorem respond_of_error (hchallenges : refusal.challenges = true) {route : Route}
    (hroute : route ∈ Route.analyses) (hasks : r.AsksFor route) (hbody : r.WellFormed w)
    (hlimits : route = .analyzeFile → r.FormWithinLimits w) (origins : List Text)
    (engine : Engine) :
    respond w origins engine s r = (unauthorized origins r refusal.detail, s) := by
  rw [respond_of_answered hasks origins engine s
    (run_of_error hencoded hauth hroute hbody hlimits engine)]
  cases refusal with
  | missingKey => rfl
  | invalidKey => rfl
  | _ => cases hchallenges

end Refused

/-- For a caller that is let in it is the body that counts. -/
theorem guarded_of_admitted {w : Framework} {s : Service} {r : Request}
    (hadmitted : ∃ caller, s.settings.authenticate r.key? = .ok caller) {α : Type}
    (decoded : Decoded α) (run : α → Outcome × Service) :
    guarded w s r (.ok decoded) run =
      match decoded with
      | .faulty faults => (w.refuse r faults, s)
      | .ok a => run a := by
  have hfailure : s.settings.keyFailure? (r.header? "x-api-key") = none :=
    Settings.keyFailure?_of_admitted hadmitted
  obtain ⟨caller, hcaller⟩ := hadmitted
  have hkey : s.settings.authenticate (r.header? "x-api-key") = .ok caller := hcaller
  cases decoded <;> simp only [guarded, hfailure, hkey]

section WithKey

variable {w : Framework} {s : Service} {r : Request} {key : Option Text}
  (hauth : ∃ caller, s.settings.authenticate r.key? = .ok caller)
  (hother : ∃ caller, (s.withKey key).settings.authenticate r.key? = .ok caller)
include hauth hother

/-- Who is let in with either key is handled in the same way. -/
theorem guarded_withKey {α : Type} (body : Except Outcome (Decoded α))
    {run other : α → Outcome × Service} (hrun : ∀ a, other a = (run a).map id (·.withKey key)) :
    guarded w (s.withKey key) r body other = (guarded w s r body run).map id (·.withKey key) := by
  cases body with
  | error outcome => rfl
  | ok decoded =>
    rw [guarded_of_admitted hauth, guarded_of_admitted hother]
    cases decoded with
    | faulty faults => rfl
    | ok a => exact hrun a

theorem run_withKey (route : Route) (engine : Engine) :
    route.run w engine (s.withKey key) r = (route.run w engine s r).map id (·.withKey key) := by
  cases route with
  | root => rfl
  | health => rfl
  | analyzeFile =>
    refine guarded_withKey hauth hother _ fun f => ?_
    rw [Service.handleFile_withKey]
    rfl
  | analyzeText =>
    refine guarded_withKey hauth hother _ fun request => ?_
    rw [Service.handleText_withKey]
    rfl
  | analyzePassword =>
    refine guarded_withKey hauth hother _ fun request => ?_
    rw [Service.handlePassword_withKey]
    obtain ⟨outcome, s'⟩ := s.handlePassword engine request
    cases outcome <;> rfl

theorem respond_withKey (origins : List Text) (engine : Engine) :
    respond w origins engine (s.withKey key) r =
      (respond w origins engine s r).map id (·.withKey key) := by
  have hdispatch :
      dispatch w engine (s.withKey key) r = (dispatch w engine s r).map id (·.withKey key) := by
    unfold dispatch
    cases Page.all.find? (·.matches r.path) with
    | some page => rfl
    | none =>
      cases Route.all.find? (·.matches r.path) with
      | none => rfl
      | some route =>
        dsimp only
        split_ifs
        · exact run_withKey hauth hother route engine
        · rfl
  unfold respond
  split_ifs
  · rfl
  · rw [hdispatch]
    obtain ⟨outcome, s'⟩ := dispatch w engine s r
    cases outcome <;> rfl

end WithKey

theorem respond_withoutKey_of_dispatch {w : Framework} {s : Service} {r : Request} {engine : Engine}
    (hdispatch : dispatch w engine s r.withoutKey = dispatch w engine s r) (origins : List Text) :
    respond w origins engine s r.withoutKey = respond w origins engine s r := by
  unfold respond
  rw [Request.isPreflight_withoutKey, Request.answerPreflight_withoutKey,
    Request.originHeaders_withoutKey, hdispatch]

section WithoutKey

variable {w : Framework} {s : Service} (hdisabled : s.settings.isAuthEnabled = false) (r : Request)
include hdisabled

theorem guarded_withoutKey {α : Type} (body : Except Outcome (Decoded α))
    (run : α → Outcome × Service) : guarded w s r.withoutKey body run = guarded w s r body run := by
  simp only [guarded, Settings.keyFailure?_of_disabled hdisabled,
    Settings.authenticate_of_disabled hdisabled, Request.refuse_withoutKey]

theorem run_withoutKey (route : Route) (engine : Engine) :
    route.run w engine s r.withoutKey = route.run w engine s r := by
  cases route with
  | root => rfl
  | health => rfl
  | analyzeFile =>
    simp only [Route.run, Request.fileForm_withoutKey, guarded_withoutKey hdisabled]
  | analyzeText =>
    simp only [Route.run, Request.record_withoutKey, guarded_withoutKey hdisabled]
  | analyzePassword =>
    simp only [Route.run, Request.record_withoutKey, guarded_withoutKey hdisabled]

/-- Where no key is asked for, none is looked at. -/
theorem respond_withoutKey (origins : List Text) (engine : Engine) :
    respond w origins engine s r.withoutKey = respond w origins engine s r := by
  refine respond_withoutKey_of_dispatch ?_ origins
  simp only [dispatch, run_withoutKey hdisabled]
  rfl

end WithoutKey

/-- What the service tells of itself does not go by the key. -/
theorem respond_report {w : Framework} {r : Request} {s : Service}
    (h : r.AsksFor .root ∨ r.AsksFor .health) (origins : List Text) (engine : Engine) :
    respond w origins engine s r.withoutKey = respond w origins engine s r ∧
      (s.settings.IsNamed → (respond w origins engine s r).1.status = 200) := by
  obtain ⟨route, hasks, value, hreport⟩ :
      ∃ route, r.AsksFor route ∧ ∃ value, route.report? s.settings = some value := by
    rcases h with hasks | hasks
    · exact ⟨.root, hasks, _, rfl⟩
    · exact ⟨.health, hasks, _, rfl⟩
  have hother : r.withoutKey.AsksFor route := hasks
  refine ⟨respond_withoutKey_of_dispatch ?_ origins, fun hnamed => ?_⟩
  · rw [dispatch_of_asksFor hother, dispatch_of_asksFor hasks, Route.run_of_report? hreport,
      Route.run_of_report? hreport]
  · have hrun := Route.run_of_report? (w := w) hreport engine r
    rw [Framework.report_of_sent (unsent?_of_report? hnamed hreport)] at hrun
    rw [respond_of_answered hasks origins engine s hrun]

/-- The key comes before the analyses. Without it, or with another, every body that can be read gets
one answer, and the service stays as it is; with it, a request is answered as if there were no key
in the settings. Where there is none, or a blank one, what is sent as a key changes nothing, and to
the other two routes it never does. These answer as long as the service presents itself by texts. -/
theorem respond_gated (w : Framework) (origins : List Text) (engine : Engine) (s : Service)
    (r : Request) :
    (∀ key, s.settings.apiKey = .proper (some key) → key.strip ≠ [] → ∀ route ∈ Route.analyses,
      r.AsksFor route → r.WellFormed w → (route = .analyzeFile → r.FormWithinLimits w) →
      (r.key? = none ∨ r.key? = some [] →
        respond w origins engine s r = (unauthorized origins r "Missing API key", s)) ∧
      ∀ sent, r.key? = some sent → sent ≠ [] → sent ≠ key →
        respond w origins engine s r = (unauthorized origins r "Invalid API key", s)) ∧
    (∀ key, s.settings.apiKey = .proper (some key) → r.key? = some key →
      respond w origins engine (s.withKey none) r =
        (respond w origins engine s r).map id (·.withKey none)) ∧
    ((∀ key, s.settings.apiKey = .proper (some key) → key.strip = []) →
      (∀ codePoints, s.settings.apiKey ≠ .foreign (.broken codePoints)) →
      respond w origins engine s r.withoutKey = respond w origins engine s r) ∧
    (r.AsksFor .root ∨ r.AsksFor .health →
      respond w origins engine s r.withoutKey = respond w origins engine s r ∧
      (s.settings.IsNamed → (respond w origins engine s r).1.status = 200)) := by
  refine ⟨fun key hkey hblank route hroute hasks hbody hlimits => ?_, fun key hkey hsent => ?_,
    fun hblank hencoded => ?_, fun hasks => respond_report hasks origins engine⟩
  · have henabled := Settings.isAuthEnabled_of_key hkey hblank
    have hencoded := Settings.keyFailure?_of_proper hkey r.key?
    refine ⟨fun hsent => ?_, fun sent hsent hne hwrong => ?_⟩
    · have hauth := Settings.authenticate_missing henabled hsent
      exact respond_of_error hencoded hauth rfl hroute hasks hbody hlimits origins engine
    · have hauth : s.settings.authenticate r.key? = .error .invalidKey := by
        rw [hsent, Settings.authenticate_some henabled hkey hne, if_neg hwrong]
      exact respond_of_error hencoded hauth rfl hroute hasks hbody hlimits origins engine
  · refine respond_withKey ?_ ⟨_, Settings.authenticate_of_disabled rfl _⟩ origins engine
    rw [hsent]
    exact Settings.exists_authenticate_eq_ok hkey
  · exact respond_withoutKey (Settings.isAuthEnabled_of_blank hblank hencoded) r origins engine

/-- A service that asks for a key. -/
def keyed : Service := { settings := { apiKey := .proper (some "k") } }

/-- A number where a record is expected, sent with some headers. -/
def misfit (headers : List (Text × Text)) : Request where
  method := "POST"
  path := "/api/v1/analyze-password"
  headers := headers
  body := .json (.int 1)

/-- A file in a form, sent with some headers. -/
def filed (headers : List (Text × Text)) : Request where
  method := "POST"
  path := "/api/v1/analyze"
  headers := headers
  body := .multipart [⟨"file", .file { filename := some "a.txt", content := [0x69, 0x70] }⟩,
    ⟨"password", .text "cisco"⟩]

theorem respond_gated_keyed :
    respond .standard standardOrigins (.failing "down") keyed (misfit []) =
      (unauthorized standardOrigins (misfit []) "Missing API key", keyed) ∧
    respond .standard standardOrigins (.failing "down") keyed (misfit [("X-Api-Key", "K")]) =
      (unauthorized standardOrigins (misfit [("X-Api-Key", "K")]) "Invalid API key", keyed) ∧
    respond .standard standardOrigins .working keyed (filed []) =
      (unauthorized standardOrigins (filed []) "Missing API key", keyed) ∧
    respond .standard standardOrigins .working keyed (filed [("x-api-key", "K")]) =
      (unauthorized standardOrigins (filed [("x-api-key", "K")]) "Invalid API key", keyed) ∧
    respond .standard standardOrigins .working (keyed.withKey none) (filed [("x-api-key", "k")]) =
      (respond .standard standardOrigins .working keyed (filed [("x-api-key", "k")])).map id
        (·.withKey none) ∧
    respond .standard standardOrigins .working {} (misfit []) =
      respond .standard standardOrigins .working {} (misfit [("x-api-key", "k")]) ∧
    (respond .standard standardOrigins .working keyed { method := "GET", path := "/" }).1.status =
      200 := by
  have hwell (headers : List (Text × Text))
      (htype : (misfit headers).header? "content-type" = none) :
      (misfit headers).WellFormed .standard := by
    have hmedia : (misfit headers).mediaType = "application/json" := by
      rw [Request.mediaType, htype]
      rfl
    refine ⟨fun _ => .inr (.inl ⟨_, rfl⟩), fun hform => ?_⟩
    rw [hmedia] at hform
    exact absurd hform (by decide)
  have hform (headers : List (Text × Text))
      (htype : (filed headers).header? "content-type" = none) :
      (filed headers).WellFormed .standard ∧ (filed headers).FormWithinLimits .standard := by
    have hmedia : (filed headers).mediaType = "multipart/form-data; boundary=part" := by
      rw [Request.mediaType, htype]
      rfl
    refine ⟨⟨fun hjson => ?_, fun _ => ?_⟩, nofun, fun parts hparts _ => ?_, fun _ hother => ?_⟩
    · rw [hmedia] at hjson
      exact absurd hjson (by decide)
    · rw [hmedia]
      exact ⟨"part", by decide, .inr (.inr ⟨⟨_, rfl⟩, by decide⟩)⟩
    · cases hparts
      exact ⟨by decide, by decide, fun _ => by decide⟩
    · rw [hmedia] at hother
      rcases hother with ⟨-, bytes, hbytes⟩ | ⟨htype, -⟩
      · cases hbytes
      · exact absurd htype (by decide)
  have hmissing := respond_gated .standard standardOrigins (.failing "down") keyed (misfit [])
  have hwrong := respond_gated .standard standardOrigins (.failing "down") keyed
    (misfit [("X-Api-Key", "K")])
  have hunsigned := respond_gated .standard standardOrigins .working keyed (filed [])
  have hforeign := respond_gated .standard standardOrigins .working keyed
    (filed [("x-api-key", "K")])
  have hright := respond_gated .standard standardOrigins .working keyed
    (filed [("x-api-key", "k")])
  have hopen := respond_gated .standard standardOrigins .working {} (misfit [("x-api-key", "k")])
  have hroot := respond_gated .standard standardOrigins .working keyed
    { method := "GET", path := "/" }
  refine ⟨?_, ?_, ?_, ?_, hright.2.1 "k" rfl rfl, ?_, ?_⟩
  · exact (hmissing.1 "k" rfl (by decide) .analyzePassword (by decide) ⟨rfl, rfl⟩ (hwell _ rfl)
      nofun).1 (.inl rfl)
  · exact (hwrong.1 "k" rfl (by decide) .analyzePassword (by decide) ⟨rfl, rfl⟩ (hwell _ rfl)
      nofun).2 "K" rfl (by decide) (by decide)
  · obtain ⟨hbody, hlimits⟩ := hform [] rfl
    exact (hunsigned.1 "k" rfl (by decide) .analyzeFile (by decide) ⟨rfl, rfl⟩ hbody
      fun _ => hlimits).1 (.inl rfl)
  · obtain ⟨hbody, hlimits⟩ := hform [("x-api-key", "K")] rfl
    exact (hforeign.1 "k" rfl (by decide) .analyzeFile (by decide) ⟨rfl, rfl⟩ hbody
      fun _ => hlimits).2 "K" rfl (by decide) (by decide)
  · exact hopen.2.2.1 nofun nofun
  · exact (hroot.2.2.2 (.inl ⟨rfl, rfl⟩)).2 ⟨⟨_, rfl⟩, ⟨_, rfl⟩, ⟨_, rfl⟩⟩

/-- A form with more fields than its reader takes. -/
def crowded : Request where
  method := "POST"
  path := "/api/v1/analyze"
  body := .fields ((List.range 1001).map fun n => ⟨Text.ofNat n, .text []⟩)

/-- The limits of the form reader come before the key. The service cannot present itself by a
version that has no JSON. -/
theorem respond_before_key_crowded :
    keyed.settings.apiKey = .proper (some "k") ∧ Text.strip "k" ≠ [] ∧
    crowded.AsksFor .analyzeFile ∧ crowded.WellFormed .standard ∧ crowded.key? = none ∧
    (respond .standard standardOrigins .working keyed crowded).1.status = 400 ∧
    respond .standard standardOrigins .working keyed crowded ≠
      (unauthorized standardOrigins crowded "Missing API key", keyed) ∧
    (respond .standard standardOrigins .working
      { settings := { appVersion := .foreign (.real "NaN") } }
      { method := "GET", path := "/" }).1.status = 500 := by
  have hstatus : (respond .standard standardOrigins .working keyed crowded).1.status = 400 := by
    decide +kernel
  refine ⟨rfl, by decide, ⟨rfl, rfl⟩, ⟨fun hjson => ?_, fun hform => ?_⟩, rfl, hstatus, ?_, ?_⟩
  · exact absurd hjson (by decide)
  · exact absurd hform (by decide)
  · intro heq
    rw [heq] at hstatus
    cases hstatus
  · decide +kernel

end Http
end ConfigAudit
