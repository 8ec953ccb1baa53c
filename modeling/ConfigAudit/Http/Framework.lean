import ConfigAudit.Http.Form

/-! What the application leaves to the framework that it is built on: the pages of the
documentation, the reading of raw bytes, and the sending of JSON. -/
namespace ConfigAudit.Http

/-- The pages of the documentation. -/
inductive Page where
  | schema
  | explorer
  | explorerSignIn
  | reference
  deriving DecidableEq, Inhabited

namespace Page

def all : List Page := [schema, explorer, explorerSignIn, reference]

def path : Page → Text
  | schema => "/openapi.json"
  | explorer => "/docs"
  | explorerSignIn => "/docs/oauth2-redirect"
  | reference => "/redoc"

end Page

/-- Why a body is not read as JSON. -/
inductive JsonFault where
  | malformed (position : Nat)
  | unreadable
  deriving DecidableEq, Inhabited

structure Framework where
  page : Page → Payload
  /-- Whether a body of no media type is read as JSON. -/
  presumesJson : Bool
  readJson : List UInt8 → Except JsonFault Json
  /-- Reads a form of a media type from a body that was not written as that form. -/
  readForm : Text → Body → Except FormFault (List Part)
  /-- Whether a field that holds the upload counts as not sent. -/
  omits : Upload → Bool
  /-- Why a value cannot be sent as JSON. -/
  unsent? : Json → Option Failure
  /-- Why the faults of a body of a media type cannot be sent along with what was found there. -/
  unreported? : Text → Body → List Fault → Option Failure
  /-- Texts and lists of texts can be sent. -/
  sends_texts : ∀ members : List (Text × Json),
    (∀ m ∈ members, (∃ t, m.2 = .str t) ∨ ∃ l, m.2 = .texts l) → unsent? (.obj members) = none

namespace Framework

/-- Whether a body of a media type is read as JSON. -/
def readsJson (w : Framework) (mediaType : Text) : Bool :=
  isJsonType mediaType || (mediaType = [] && w.presumesJson)

end Framework

end ConfigAudit.Http
