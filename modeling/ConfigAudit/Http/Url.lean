import ConfigAudit.Text.Quoted

/-! Addresses of requests: what is refused, and the path that an address leads to. -/
namespace ConfigAudit.Http

/-- The parts of an address that a request goes by; its query and its fragment are left out. -/
structure Url where
  scheme : Text
  authority : Text
  path : Text
  deriving DecidableEq, Inhabited

/-- Why no request can be sent to an address. -/
inductive UrlFault where
  | tooLong
  | unprintable (c : Char) (position : Nat)
  | badPort (port : Text)
  | doubleSlash
  | leadingColon
  | unknownScheme (scheme : Text)
  deriving DecidableEq, Inhabited

def UrlFault.message : UrlFault → Text
  | tooLong => "URL too long"
  | unprintable c position =>
    "Invalid non-printable ASCII character in URL, " ++ Text.quoted [c] ++ " at position " ++
      Text.ofNat position ++ "."
  | badPort port => "Invalid port: " ++ port.quoted
  | doubleSlash => "Relative URLs cannot have a path starting with '//'"
  | leadingColon => "Relative URLs cannot have a path starting with ':'"
  | unknownScheme scheme => scheme.quoted

namespace Url

/-- The scheme before a colon, which begins with a letter unless it is empty, and the rest. -/
def splitScheme (t : Text) : Text × Text :=
  let isPart (c : Char) := c.isAlpha || c.isDigit || c = '+' || c = '-' || c = '.'
  let scheme := t.takeWhile isPart
  match t.dropWhile isPart with
  | ':' :: r => if scheme.head?.all Char.isAlpha then (scheme, r) else ([], t)
  | _ => ([], t)

/-- The authority behind two slashes, and the rest. -/
def splitAuthority (t : Text) : Text × Text :=
  let isPart (c : Char) := c ≠ '/' && c ≠ '?' && c ≠ '#'
  match t with
  | '/' :: '/' :: r => (r.takeWhile isPart, r.dropWhile isPart)
  | _ => ([], t)

def split (t : Text) : Url :=
  let (scheme, r) := splitScheme t
  let (authority, r) := splitAuthority r
  ⟨scheme.map Char.toLower, authority, r.takeWhile fun c => c ≠ '?' && c ≠ '#'⟩

/-- The authority without the name of a user. -/
def site (u : Url) : Text := (u.authority.reverse.takeWhile (· ≠ '@')).reverse

def host (u : Url) : Text := u.site.takeWhile (· ≠ ':')

def port (u : Url) : Text := (u.site.dropWhile (· ≠ ':')).drop 1

/-- An address is absolute if it names a scheme and a host. -/
def isAbsolute (u : Url) : Bool := u.scheme ≠ [] && u.host ≠ []

/-- Whether anything stands before the path. -/
def isQualified (u : Url) : Bool := u.scheme ≠ [] || u.authority ≠ []

def maxLength : Nat := 65536

def isUnprintable (c : Char) : Bool := c.toNat < 0x20 || c.toNat = 0x7F

/-- The parts of an address, whose path may be unclear only next to a scheme or an authority. -/
def parse (t : Text) : Except UrlFault Url :=
  let u := split t
  if maxLength < t.length then .error .tooLong
  else
    match t.find? isUnprintable with
    | some c => .error (.unprintable c (t.idxOf c))
    | none =>
      if !u.port.all Char.isDigit then .error (.badPort u.port)
      else if u.isQualified then .ok u
      else if u.path.startsWith "//" then .error .doubleSlash
      else if u.path.startsWith ":" then .error .leadingColon
      else .ok u

/-- One segment after others: a point alone goes, and two points go with the segment before them,
but not with the empty one in front. -/
def addSegment (segments : List Text) (segment : Text) : List Text :=
  if segment = ['.'] then segments
  else if segment = ['.', '.'] then
    if segments = [[]] then segments else segments.dropLast
  else segments ++ [segment]

def withoutDots (path : Text) : Text :=
  Text.join "/" ((path.split '/').foldl addSegment [])

/-- Every escape of two hexadecimal digits stands for the character of that code. One above ASCII,
of which no route has any, stands for itself alone. -/
def percentDecode : Text → Text
  | '%' :: a :: b :: r =>
    match Text.hexDigit? a, Text.hexDigit? b with
    | some m, some n => Char.ofNat (m * 16 + n) :: percentDecode r
    | _, _ => '%' :: percentDecode (a :: b :: r)
  | c :: r => c :: percentDecode r
  | [] => []

/-- The path of an address on the server, which has one slash in front if the address is not
absolute. It is decoded once by the sender and once by the receiver. -/
def target (u : Url) : Text :=
  let own := if u.isQualified then withoutDots u.path else u.path
  let path := if u.isAbsolute then own else withoutDots ('/' :: own.dropWhile (· = '/'))
  percentDecode (percentDecode (if path = [] then "/" else path))

/-- The path that a request to an address asks for. An address that is not absolute is one on the
server. -/
def resolve (t : Text) : Except UrlFault Text :=
  match parse t with
  | .error fault => .error fault
  | .ok u =>
    if u.isAbsolute && u.scheme ≠ "http" && u.scheme ≠ "https" then
      .error (.unknownScheme u.scheme)
    else .ok u.target

end Url
end ConfigAudit.Http
