import ConfigAudit.Http.Framework

/-! What a body holds: a record in JSON, or the fields of a form. -/
namespace ConfigAudit.Http

/-- A body as JSON. A form is none: it starts with a scalar at most, since fields are encoded and
parts begin with hyphens. -/
def Body.readJson (w : Framework) : Body → Except JsonFault Json
  | json value => .ok value
  | fields parts =>
    match Json.scalarLength (encodeFields parts) with
    | .ok position => .error (.malformed position)
    | .error _ => .error .unreadable
  | multipart parts => .error (if parts.all (·.isText) then .malformed 0 else .unreadable)
  | raw bytes => w.readJson bytes
  | none => .error (.malformed 0)

/-- The record in a body, which has to be announced as JSON. -/
def Request.record (w : Framework) (r : Request) (fields : List (Text × Json) → Decoded α) :
    Except JsonFault (Decoded α) :=
  if r.body.isEmpty then .ok (.fault .missing)
  else if w.readsJson r.mediaType then
    match r.body.readJson w with
    | .ok (.obj members) => .ok (fields members)
    | .ok _ => .ok (.fault .notObject)
    | .error fault => .error fault
  else .ok (.fault .notObject)

/-- The parts of the form in a body. A body that is announced to have parts has to be set off by the
boundary that is announced. -/
def Request.parts (w : Framework) (r : Request) : Except FormFault (List Part) :=
  let type := formType r.mediaType
  if type = "multipart/form-data" then
    match boundary? r.mediaType with
    | none => .error .noBoundary
    | some boundary =>
      if r.body.isEmpty then .ok []
      else
        match r.body with
        | .multipart parts =>
          if sentBoundary? r.mediaType = some boundary then limitParts true parts
          else .error .unreadable
        | .raw _ => w.readForm r.mediaType r.body
        | _ => .error .unreadable
  else if type = "application/x-www-form-urlencoded" then
    if r.body.isEmpty then .ok []
    else
      match r.body with
      | .fields parts => limitParts false parts
      | _ => w.readForm r.mediaType r.body
  else .ok []

/-- The content of the last part of a field. An empty text was not sent. -/
def content? (w : Framework) (field : Text) (parts : List Part) : Option Content :=
  match parts.reverse.find? (·.field = field) with
  | none | some ⟨_, .text []⟩ => none
  | some ⟨_, .text t⟩ => some (.text t)
  | some ⟨_, .file u⟩ => if w.omits u then none else some (.file u)

def uploadField (w : Framework) (field : Text) (parts : List Part) : Decoded (Option Upload) :=
  match content? w field parts with
  | none => .ok none
  | some (.file u) => .ok (some u)
  | some (.text _) => (Decoded.fault .textForFile).within (.key field)

def textField (w : Framework) (field : Text) (parts : List Part) : Decoded (Option Text) :=
  match content? w field parts with
  | none => .ok none
  | some (.text t) => .ok (some t)
  | some (.file _) => (Decoded.fault .notText).within (.key field)

/-- The fields of a form that sends a file. -/
structure FileForm where
  file : Option Upload
  configFile : Option Upload
  password : Option Text

def FileForm.ofParts (w : Framework) (parts : List Part) : Decoded FileForm :=
  FileForm.mk <$> uploadField w "file" parts <*> uploadField w "configFile" parts
    <*> textField w "password" parts

def Request.fileForm (w : Framework) (r : Request) : Except FormFault (Decoded FileForm) :=
  (r.parts w).map (FileForm.ofParts w)

end ConfigAudit.Http
