import ConfigAudit.Http.Routing

/-! The application as layers around the routes. From outside in: unhandled failures, cross-origin
access, the trace of a request, and the routes. -/
namespace ConfigAudit.Http

/-- A question before a request from another origin. -/
def Request.isPreflight (r : Request) : Bool :=
  r.method = "OPTIONS" && (r.header? "origin").isSome &&
    (r.header? "access-control-request-method").isSome

def allowedMethods : List Text :=
  ["DELETE", "GET", "HEAD", "OPTIONS", "PATCH", "POST", "PUT", "QUERY"]

/-- The headers for a request that names its origin. Only a listed origin is allowed. -/
def originHeaders (origins : List Text) (r : Request) : List (Text × Text) :=
  match r.header? "origin" with
  | none => []
  | some origin =>
    ("access-control-allow-credentials", "true") ::
      if origins.contains origin then [("access-control-allow-origin", origin)] else []

/-- What a preflight asks for and does not get. Access from a private network is never granted. -/
def preflightFailures (origins : List Text) (r : Request) : List Text :=
  let refused (granted : Bool) (what : Text) : List Text := if granted then [] else [what]
  refused ((r.header? "origin").any origins.contains) "origin" ++
    refused ((r.header? "access-control-request-method").any allowedMethods.contains) "method" ++
    refused (r.header? "access-control-request-private-network").isNone "private-network"

def answerPreflight (origins : List Text) (r : Request) : Response :=
  let headers := originHeaders origins r
  match preflightFailures origins r with
  | [] => { status := 200, payload := .plain "OK", headers }
  | failures =>
    { status := 400, payload := .plain ("Disallowed CORS " ++ Text.join ", " failures), headers }

/-- The answer to a failure that no route has handled. Its text is shown to those who debug. -/
def answerCrash (s : Settings) (f : Failure) : Response where
  status := 500
  payload := .json (.obj [
    ("detail", .str (if s.debug.isOn then f.message else "Internal Server Error")),
    ("error", .str f.label),
    ("message", .str (if s.debug.isOn then f.message else "An unexpected error occurred"))])

def respond (w : Framework) (origins : List Text) (engine : Engine) (s : Service) (r : Request) :
    Response × Service :=
  if r.isPreflight then (answerPreflight origins r, s)
  else
    match dispatch w engine s r with
    | (.crashed failure, s) => (answerCrash s.settings failure, s)
    | (.answered a, s) =>
      ({ a with headers := a.headers ++ originHeaders origins r, traced := true }, s)

/-- The origins that a service started with its initial settings allows. -/
def standardOrigins : List Text := ["http://localhost:3000", "http://localhost:8000"]

end ConfigAudit.Http
