import ConfigAudit.Http.Message

/-! The media type of a body, and the parts of a form as they are announced, limited and written. -/
namespace ConfigAudit.Http

/-- The media type that goes with a body if the headers name none. -/
def Body.mediaType : Body → Text
  | none | raw _ => []
  | json _ => "application/json"
  | fields _ => "application/x-www-form-urlencoded"
  | multipart _ => "multipart/form-data; boundary=part"

def Request.mediaType (r : Request) : Text := (r.header? "content-type").getD r.body.mediaType

/-- What stands before the parameters of a media type. -/
def mediaEssence (mediaType : Text) : Text := Text.strip (mediaType.takeWhile (· ≠ ';'))

/-- The subtypes of `application` that are JSON. -/
def isJsonSubtype (subtype : Text) : Bool := subtype = "json" || subtype.endsWith "+json"

def isJsonType (mediaType : Text) : Bool :=
  match (asciiLower (mediaEssence mediaType)).split '/' with
  | [type, subtype] => type = "application" && isJsonSubtype subtype
  | _ => false

/-- The essence as forms are recognized by it. -/
def formType (mediaType : Text) : Text := asciiLower (mediaEssence mediaType)

/-- The parameters of a media type, with their names in small letters. -/
def mediaParameters (mediaType : Text) : List (Text × Text) :=
  ((mediaType.split ';').drop 1).map fun p =>
    (asciiLower (Text.strip (p.takeWhile (· ≠ '='))), Text.strip ((p.dropWhile (· ≠ '=')).drop 1))

/-- What stands between two quotation marks, or the whole text. -/
def unquoted (t : Text) : Text :=
  match t with
  | '"' :: r => if r.getLast? = some '"' then r.dropLast else t
  | _ => t

/-- The boundary between parts as a reader finds it: of several, the last one. -/
def boundary? (mediaType : Text) : Option Text :=
  let named := (mediaParameters mediaType).filter fun p => p.1 = ("boundary" : Text)
  named.getLast?.map fun p => unquoted p.2

/-- The boundary between parts as a sender finds it: of several, the first one. The type and the
parameter have to begin as they are usually written. -/
def sentBoundary? (mediaType : Text) : Option Text :=
  if mediaType.startsWith "multipart/form-data" then
    let sections := (mediaType.split ';').map Text.strip
    (sections.find? fun p => (asciiLower p).startsWith "boundary=").map fun p => unquoted (p.drop 9)
  else none

/-- Why a form is not read. -/
inductive FormFault where
  | tooManyFields
  | tooManyFiles
  | partTooLarge
  | noBoundary
  | unreadable
  /-- Bytes that are no form, as their reader says. -/
  | malformed (message : Text)
  deriving DecidableEq, Inhabited

namespace FormFault

/-- The most fields, and the most files. -/
def maxParts : Nat := 1000

/-- The most bytes in a field that is sent as a part. -/
def maxPartSize : Nat := 1048576

def message : FormFault → Text
  | tooManyFields =>
    "Too many fields. Maximum number of fields is " ++ Text.ofNat maxParts ++ "."
  | tooManyFiles => "Too many files. Maximum number of files is " ++ Text.ofNat maxParts ++ "."
  | partTooLarge => "Part exceeded maximum size of " ++ Text.ofNat (maxPartSize / 1024) ++ "KB."
  | noBoundary => "Missing boundary in multipart."
  | unreadable => "There was an error parsing the body"
  | malformed message => message

end FormFault

/-- The first fault of some parts, before which so many fields and files were read. -/
def partsFault? (sizeLimited : Bool) (fields files : Nat) : List Part → Option FormFault
  | [] => none
  | ⟨_, .text t⟩ :: r =>
    if FormFault.maxParts ≤ fields then some .tooManyFields
    else if sizeLimited && FormFault.maxPartSize < (Utf8.encode t).length then some .partTooLarge
    else partsFault? sizeLimited (fields + 1) files r
  | ⟨_, .file _⟩ :: r =>
    if FormFault.maxParts ≤ files then some .tooManyFiles
    else partsFault? sizeLimited fields (files + 1) r

def limitParts (sizeLimited : Bool) (parts : List Part) : Except FormFault (List Part) :=
  match partsFault? sizeLimited 0 0 parts with
  | some fault => .error fault
  | none => .ok parts

/-- A byte as the escape that stands for it. -/
def percentEscape (n : Nat) : Text :=
  ['%', (Nat.digitChar (n / 16)).toUpper, (Nat.digitChar (n % 16)).toUpper]

/-- A character in a field that is sent without parts. -/
def encodeFieldChar (c : Char) : Text :=
  if c.isAlphanum || c = '_' || c = '.' || c = '-' || c = '~' then [c]
  else if c = ' ' then ['+']
  else (Utf8.encodeChar c).flatMap fun b => percentEscape b.toNat

def encodeField (p : Part) : Text :=
  let value : Text := match p.content with
    | .text t => t
    | .file _ => []
  p.field.flatMap encodeFieldChar ++ '=' :: value.flatMap encodeFieldChar

/-- Fields as they are sent without parts. -/
def encodeFields (parts : List Part) : Text := Text.join "&" (parts.map encodeField)

end ConfigAudit.Http
