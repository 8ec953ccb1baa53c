import ConfigAudit.Http.Application
import ConfigAudit.Http.Standard
import ConfigAudit.Http.Url
import ConfigAudit.Text.Capital

/-! The way of a request to the application and of the response back. -/
namespace ConfigAudit.Http

/-- Why a request cannot be sent. -/
inductive SendFault where
  | address (fault : UrlFault)
  /-- A header value with characters above U+00FF, the first of which stands at a position. -/
  | header (value : Text) (position : Nat)
  deriving DecidableEq, Inhabited

def isLatin1 (c : Char) : Bool := c.toNat < 0x100

def SendFault.message : SendFault → Text
  | address fault => fault.message
  | header value position =>
    let run := (value.drop position).takeWhile (!isLatin1 ·)
    Text.unencodable "latin-1" "ordinal not in range(256)" position (run.map Char.toNat)

/-- The first header that cannot be sent. -/
def headerFault? (headers : List (Text × Text)) : Option SendFault :=
  (headers.find? fun h => !h.2.all isLatin1).map fun h => .header h.2 (h.2.findIdx (!isLatin1 ·))

/-- The bytes of a text below U+0100. -/
def latin1Encode (t : Text) : List UInt8 := t.map fun c => UInt8.ofNat c.toNat

def latin1Decode (bytes : List UInt8) : Text := bytes.map fun b => Char.ofNat b.toNat

/-- Header values as the application sees them. They are sent in Latin-1 and read as Latin-1; if
they are not all well-formed UTF-8, they are sent in UTF-8 instead. -/
def transferHeaders (headers : List (Text × Text)) : List (Text × Text) :=
  if headers.all fun h => Utf8.isWellFormed (latin1Encode h.2) then headers
  else headers.map fun h => (h.1, latin1Decode (Utf8.encode h.2))

/-- A character of a file name as a form carries it: the quotation mark and every control character
but the escape are percent-encoded. -/
def transferNameChar (c : Char) : Text :=
  if c = '"' then "%22"
  else if c.toNat < 0x20 ∧ c ≠ '\x1B' then percentEscape c.toNat
  else [c]

/-- A drive is one byte and a colon before a backslash, and a host stands behind two backslashes. -/
def namesPlace : Text → Bool
  | '\\' :: '\\' :: _ => true
  | c :: ':' :: '\\' :: _ => c.toNat < 0x80
  | _ => false

/-- A file name as a form carries it. Of one that begins with a drive or a host only what follows
the last backslash is kept. -/
def transferName (name : Text) : Text :=
  let sent : Text := name.flatMap transferNameChar
  if namesPlace sent then (sent.reverse.takeWhile (· ≠ '\\')).reverse else sent

/-- A file as a form carries it. The spaces in front of its type are lost. -/
def transferUpload (u : Upload) (name : Text) : Upload where
  filename := some (transferName name)
  contentType := u.contentType.map fun t => t.dropWhile (· = ' ')
  content := u.content

/-- A part of a form. A file without a name is sent as a text field, in UTF-8 or else Latin-1. -/
def transferPart (p : Part) : Part :=
  match p.content with
  | .text _ => p
  | .file u =>
    match u.filename with
    | some (c :: name) => { p with content := .file (transferUpload u (c :: name)) }
    | _ =>
      { p with content := .text (
          if Utf8.isWellFormed u.content then Utf8.decodeLossy u.content
          else latin1Decode u.content) }

def Body.transfer : Body → Body
  | multipart parts => multipart (parts.map transferPart)
  | body => body

/-- A request as the application sees it, for the path that its address leads to. -/
def Request.transfer (r : Request) (path : Text) : Request where
  method := r.method.capitals
  path := path
  headers := transferHeaders r.headers
  body := r.body.transfer

/-- A response to `HEAD` has no body. -/
def Response.transfer (r : Response) (method : Text) : Response :=
  if method = "HEAD" then { r with payload := .plain [] } else r

/-- Sends a request to the application, if its headers and its address can be used. -/
def exchange (origins : List Text) (engine : Engine) (s : Service) (r : Request) :
    Except SendFault Response × Service :=
  match headerFault? r.headers, Url.resolve r.path with
  | some fault, _ => (.error fault, s)
  | none, .error fault => (.error (.address fault), s)
  | none, .ok path =>
    let sent := r.transfer path
    let (response, s) := respond .standard origins engine s sent
    (.ok (response.transfer sent.method), s)

end ConfigAudit.Http
