import ConfigAudit.Proofs.Http.Consulting

/-! What a response tells of a failure. Who does not debug learns that an analysis has failed and
nothing of the message. Who debugs is told the message, on every route that analyzes. -/
namespace ConfigAudit.Http

/-- The text under `detail` in the body of a response. -/
def Response.detail? (a : Response) : Option Text :=
  match a.payload with
  | .json (.obj members) =>
    match Json.lookup "detail" members with
    | some (.str t) => some t
    | _ => none
  | _ => none

section Failed

variable {g : Settings} (origins : List Text) (r : Request)

/-- Without debugging, every message makes the same response. -/
theorem response_failed_eq (hdebug : g.debug.isOn = false) (route : Route) (m₁ m₂ : Text) :
    (route.failed g (.engine m₁)).response origins g r =
      (route.failed g (.engine m₂)).response origins g r := by
  have hfailure (subject : Subject) (m : Text) :
      g.failure subject (.engine m) = .failed subject none := by
    rw [Settings.failure, hdebug]
    rfl
  have hcrash (m : Text) : answerCrash g (.engine m) = answerCrash g (.engine m₁) := by
    simp only [answerCrash, hdebug]
    rfl
  cases route with
  | analyzeFile => simp only [Route.failed, hfailure]
  | analyzeText => simp only [Route.failed, hfailure]
  | _ => exact (hcrash m₂).symm

theorem status_response_failed (route : Route) (f : Failure) :
    ((route.failed g f).response origins g r).status = 500 := by
  cases route <;> rfl

/-- With debugging, the message ends the detail. -/
theorem detail?_response_failed (hdebug : g.debug.isOn = true) (route : Route) (m : Text) :
    ∃ detail, ((route.failed g (.engine m)).response origins g r).detail? = some detail ∧
      m <:+ detail := by
  have hrefused (subject : Subject) :
      m <:+ (g.failure subject (.engine m)).detail := by
    rw [Settings.failure, hdebug]
    exact List.suffix_append _ m
  have hcrash : (answerCrash g (.engine m)).detail? = some m := by
    simp only [answerCrash, hdebug]
    rfl
  cases route with
  | analyzeFile => exact ⟨_, rfl, hrefused .file⟩
  | analyzeText => exact ⟨_, rfl, hrefused .text⟩
  | _ => exact ⟨m, hcrash, List.suffix_refl m⟩

end Failed

/-- A message of a failing engine shows in a response only to those who debug, and to them wherever
the engine is consulted. To all other requests it makes no difference which engine there is. -/
theorem respond_conceals (w : Framework) (origins : List Text) (s : Service) (r : Request) :
    (s.settings.debug.isOn = false → ∀ m₁ m₂,
      respond w origins (.failing m₁) s r = respond w origins (.failing m₂) s r) ∧
    (s.settings.debug.isOn = true → ∀ route, r.Consults w s.settings route → ∀ m,
      (respond w origins (.failing m) s r).1.status = 500 ∧
        ∃ detail, (respond w origins (.failing m) s r).1.detail? = some detail ∧ m <:+: detail) ∧
    ((∀ route, ¬r.Consults w s.settings route) → ∀ e₁ e₂,
      respond w origins e₁ s r = respond w origins e₂ s r) := by
  have hconsults {route : Route} (h : r.Consults w s.settings route) (m : Text) :
      respond w origins (.failing m) s r =
        ((route.failed s.settings (.engine m)).response origins s.settings r, s) :=
    respond_of_dispatch origins h.routed.isPreflight_eq_false (h.dispatch_of_failure rfl)
  have hother (hnone : ∀ route, ¬r.Consults w s.settings route) (e₁ e₂ : Engine) :
      respond w origins e₁ s r = respond w origins e₂ s r := by
    cases hpreflight : r.isPreflight with
    | true =>
      rw [respond_of_isPreflight origins hpreflight, respond_of_isPreflight origins hpreflight]
    | false =>
      obtain ⟨outcome, hdispatch⟩ : ∃ outcome, ∀ engine, dispatch w engine s r = (outcome, s) := by
        rcases dispatch_cases w s r with
          ⟨outcome, -, hdispatch⟩ | ⟨route, f, hrouted, hfails⟩ | ⟨route, h⟩
        · exact ⟨outcome, hdispatch⟩
        · exact ⟨.crashed f, dispatch_of_failsOn w s r hrouted hfails⟩
        · exact absurd h (hnone route)
      rw [respond_of_dispatch origins hpreflight (hdispatch e₁),
        respond_of_dispatch origins hpreflight (hdispatch e₂)]
  refine ⟨fun hdebug m₁ m₂ => ?_, fun hdebug route h m => ?_, hother⟩
  · by_cases h : ∃ route, r.Consults w s.settings route
    · obtain ⟨route, h⟩ := h
      rw [hconsults h, hconsults h, response_failed_eq origins r hdebug route m₁ m₂]
    · exact hother (not_exists.mp h) _ _
  · obtain ⟨detail, hdetail, hsuffix⟩ := detail?_response_failed origins r hdebug route m
    rw [hconsults h]
    exact ⟨status_response_failed origins r route _, detail, hdetail, hsuffix.isInfix⟩

/-- A service that shows failures. -/
def debugging : Service := { settings := { debug := .proper true } }

def submission : Request where
  method := "POST"
  path := "/api/v1/analyze-text"
  body := .json (.obj [("configText", .str "interface Gi0/1")])

theorem respond_conceals_submission :
    respond .standard standardOrigins (.failing "down") {} submission =
      respond .standard standardOrigins (.failing "out of memory") {} submission ∧
    submission.Consults .standard debugging.settings .analyzeText ∧
    (respond .standard standardOrigins (.failing "down") debugging submission).1.status = 500 ∧
    (∃ detail,
      (respond .standard standardOrigins (.failing "down") debugging submission).1.detail? =
        some detail ∧ "down" <:+: detail) ∧
    respond .standard standardOrigins (.failing "down") {} { method := "GET", path := "/docs" } =
      respond .standard standardOrigins .working {} { method := "GET", path := "/docs" } := by
  have hconsults : submission.Consults .standard debugging.settings .analyzeText :=
    ⟨⟨rfl, rfl⟩, ⟨.anonymous, rfl⟩, .text (t := ⟨"interface Gi0/1", none⟩) rfl rfl⟩
  have hidle : ∀ route,
      ¬Request.Consults .standard { method := "GET", path := "/docs" } {} route := by
    rintro route ⟨⟨hfind, -⟩, -, -⟩
    exact absurd hfind (by cases route <;> decide)
  have hquiet := respond_conceals .standard standardOrigins {} submission
  have hshown := respond_conceals .standard standardOrigins debugging submission
  have hpage := respond_conceals .standard standardOrigins {} { method := "GET", path := "/docs" }
  obtain ⟨hstatus, hdetail⟩ := hshown.2.1 rfl .analyzeText hconsults "down"
  exact ⟨hquiet.1 rfl _ _, hconsults, hstatus, hdetail, hpage.2.2 hidle _ _⟩

end ConfigAudit.Http
