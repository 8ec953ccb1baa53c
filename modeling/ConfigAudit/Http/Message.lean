import ConfigAudit.Service.Handling

/-! Requests and responses. -/
namespace ConfigAudit.Http

/-- What a part of a form holds. -/
inductive Content where
  | text (value : Text)
  | file (upload : Upload)
  deriving DecidableEq, Inhabited

structure Part where
  field : Text
  content : Content
  deriving DecidableEq, Inhabited

/-- Whether the bytes of a part are those of a text in UTF-8. -/
def Part.isText (p : Part) : Bool :=
  match p.content with
  | .text _ => true
  | .file u => Utf8.isWellFormed u.content

/-- A form is sent as its fields alone, or in parts that may hold files. Whatever is sent neither as
a form nor as JSON in UTF-8 is there byte by byte. -/
inductive Body where
  | none
  | json (value : Json)
  | fields (parts : List Part)
  | multipart (parts : List Part)
  | raw (bytes : List UInt8)
  deriving Inhabited

/-- Whether a body has no bytes. -/
def Body.isEmpty : Body → Bool
  | none | fields [] | raw [] => true
  | _ => false

structure Request where
  method : Text
  path : Text
  headers : List (Text × Text) := []
  body : Body := .none
  deriving Inhabited

inductive Payload where
  | json (value : Json)
  | plain (value : Text)
  deriving Inhabited

structure Response where
  status : Nat
  payload : Payload
  headers : List (Text × Text) := []
  /-- Whether the response carries the identifier of its trace. -/
  traced : Bool := false
  deriving Inhabited

def asciiLower (t : Text) : Text := t.map Char.toLower

/-- The value of the first header of a name, whatever its case. -/
def Request.header? (r : Request) (name : Text) : Option Text :=
  (r.headers.find? (asciiLower ·.1 = asciiLower name)).map (·.2)

end ConfigAudit.Http
