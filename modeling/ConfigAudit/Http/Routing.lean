import ConfigAudit.Http.Reading
import ConfigAudit.Service.Access

/-! The routes, and what each of them answers. -/
namespace ConfigAudit.Http

inductive Route where
  | root
  | health
  | analyzeFile
  | analyzeText
  | analyzePassword
  deriving DecidableEq, Inhabited

namespace Route

def all : List Route := [root, health, analyzeFile, analyzeText, analyzePassword]

def path : Route → Text
  | root => "/"
  | health => "/api/v1/health"
  | analyzeFile => "/api/v1/analyze"
  | analyzeText => "/api/v1/analyze-text"
  | analyzePassword => "/api/v1/analyze-password"

def method : Route → Text
  | root | health => "GET"
  | analyzeFile | analyzeText | analyzePassword => "POST"

end Route

/-- A line feed at the end of a path does not count. -/
def isPath (own path : Text) : Bool := path = own || path = own ++ ['\n']

def Route.matches (route : Route) (path : Text) : Bool := isPath route.path path

def Page.matches (page : Page) (path : Text) : Bool := isPath page.path path

/-- A response, or a failure that no route has handled. -/
inductive Outcome where
  | answered (r : Response)
  | crashed (failure : Failure)
  deriving Inhabited

namespace Outcome

def json (status : Nat) (value : Json) : Outcome := .answered { status, payload := .json value }

def detail (status : Nat) (message : Text) : Outcome :=
  json status (.obj [("detail", .str message)])

def refused (refusal : Refusal) : Outcome :=
  .answered {
    status := refusal.status
    payload := .json (.obj [("detail", .str refusal.detail)])
    headers := if refusal.challenges then [("www-authenticate", "ApiKey")] else [] }

/-- The faults of a request are located inside its body. -/
def invalid (faults : List Fault) : Outcome :=
  json 422 (.ofList Fault.toJson (faults.map (·.within (.key "body"))))

def ofFormFault (fault : FormFault) : Outcome := detail 400 fault.message

def ofJsonFault : JsonFault → Outcome
  | .malformed position => invalid [⟨.malformedBody, [.index position]⟩]
  | .unreadable => ofFormFault .unreadable

def ofReport (encode : α → Json) : Except Refusal α → Outcome
  | .ok report => json 200 (encode report)
  | .error refusal => refused refusal

end Outcome

namespace Framework

/-- A value as an answer, if it can be sent. -/
def report (w : Framework) (value : Json) : Outcome :=
  match w.unsent? value with
  | some failure => .crashed failure
  | none => .json 200 value

/-- The faults of a request as an answer, if they can be sent. -/
def refuse (w : Framework) (r : Request) (faults : List Fault) : Outcome :=
  match w.unreported? r.mediaType r.body faults with
  | some failure => .crashed failure
  | none => .invalid faults

end Framework

/-- The name of the service as it presents itself. -/
def title (s : Settings) : Json :=
  match s.appName with
  | .foreign (.broken codePoints) => .broken (codePoints ++ (" API" : Text).map Char.toNat)
  | name => .str (name.display .str ++ " API")

def welcome (s : Settings) : Json :=
  .obj [("message", title s), ("status", .str "running"),
    ("version", s.appVersion.toJson .str), ("docs", .str "/docs"),
    ("endpoints", .texts ["GET  /api/v1/health", "POST /api/v1/analyze",
      "POST /api/v1/analyze-text", "POST /api/v1/analyze-password"])]

def healthReport (s : Settings) : Json :=
  .obj [("status", .str "healthy"), ("service", s.appName.toJson .str),
    ("environment", s.appEnv.toJson .str)]

/-- Runs an analysis on a body that can be read, for a caller that is let in, if the body can be
decoded. -/
def guarded (w : Framework) (s : Service) (r : Request) (body : Except Outcome (Decoded α))
    (run : α → Outcome × Service) : Outcome × Service :=
  match body with
  | .error outcome => (outcome, s)
  | .ok decoded =>
    match s.settings.keyFailure? (r.header? "x-api-key") with
    | some failure => (.crashed failure, s)
    | none =>
      match s.settings.authenticate (r.header? "x-api-key") with
      | .error refusal => (.refused refusal, s)
      | .ok _ =>
        match decoded with
        | .faulty faults => (w.refuse r faults, s)
        | .ok a => run a

def Route.run (route : Route) (w : Framework) (engine : Engine) (s : Service) (r : Request) :
    Outcome × Service :=
  match route with
  | .root => (w.report (welcome s.settings), s)
  | .health => (w.report (healthReport s.settings), s)
  | .analyzeFile =>
    guarded w s r ((r.fileForm w).mapError .ofFormFault) fun f =>
      let (outcome, s) := s.handleFile engine f.file f.configFile f.password
      (.ofReport FileReport.toJson outcome, s)
  | .analyzeText =>
    guarded w s r ((r.record w TextRequest.fields).mapError .ofJsonFault) fun request =>
      let (outcome, s) := s.handleText engine request
      (.ofReport TextReport.toJson outcome, s)
  | .analyzePassword =>
    guarded w s r ((r.record w PasswordRequest.fields).mapError .ofJsonFault) fun request =>
      match s.handlePassword engine request with
      | (.ok analysis, s) => (.json 200 analysis.toJson, s)
      | (.error failure, s) => (.crashed failure, s)

/-- A page is there to be looked at. -/
def Page.answer (page : Page) (w : Framework) (r : Request) : Outcome :=
  if r.method = "GET" || r.method = "HEAD" then
    .answered { status := 200, payload := w.page page }
  else .detail 405 "Method Not Allowed"

/-- The route of a path answers its own method only. -/
def dispatch (w : Framework) (engine : Engine) (s : Service) (r : Request) : Outcome × Service :=
  match Page.all.find? (·.matches r.path), Route.all.find? (·.matches r.path) with
  | some page, _ => (page.answer w r, s)
  | none, none => (.detail 404 "Not Found", s)
  | none, some route =>
    if r.method = route.method then route.run w engine s r
    else (.detail 405 "Method Not Allowed", s)

end ConfigAudit.Http
