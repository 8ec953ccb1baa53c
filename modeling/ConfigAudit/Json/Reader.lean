import ConfigAudit.Json.Basic
import ConfigAudit.Number.Integer

/-! Reading JSON text. The reader also takes `NaN`, `Infinity` and `-Infinity` as numbers, and lets
the last of several members of one name count. -/
namespace ConfigAudit.Json

inductive Container where
  | array
  | object
  deriving DecidableEq, Inhabited

def Container.label : Container → Text
  | array => "array"
  | object => "object"

/-- Why a text is not read as JSON. -/
inductive ReadFault where
  | malformed
  /-- An integer of so many digits, which are too many. -/
  | overlong (digits : Nat)
  /-- A container that is nested too deeply. -/
  | tooDeep (container : Container)
  deriving DecidableEq, Inhabited

/-- The most containers around a value. A reader that recurs for each of them takes as many if it is
called near the bottom of a stack of a thousand frames, and fewer elsewhere. -/
def maxDepth : Nat := 990

def ReadFault.message : ReadFault → Text
  | malformed => "Malformed JSON"
  | tooDeep container =>
    "maximum recursion depth exceeded while decoding a JSON " ++ container.label ++
      " from a unicode string"
  | overlong digits =>
    "Exceeds the limit (" ++ Text.ofNat Integer.maxDigits ++
      " digits) for integer string conversion: value has " ++ Text.ofNat digits ++
      " digits; use sys.set_int_max_str_digits() to increase the limit"

/-- What was read at the head of a text, and what follows it. -/
abbrev Reading (α : Type) := Except ReadFault (α × Text)

def isSpace (c : Char) : Bool := c = ' ' || c = '\t' || c = '\n' || c = '\r'

def skipSpace (t : Text) : Text := t.dropWhile isSpace

def escape? (c : Char) : Option Nat :=
  if c = '"' ∨ c = '\\' ∨ c = '/' then some c.toNat
  else if c = 'b' then some 0x08
  else if c = 'f' then some 0x0C
  else if c = 'n' then some 0x0A
  else if c = 'r' then some 0x0D
  else if c = 't' then some 0x09
  else none

/-- The code units of a string after its opening quotation mark, and the text behind the closing
one. Control characters have to be escaped. -/
def readUnits : Text → Option (List Nat × Text)
  | [] => none
  | c :: r =>
    if c = '"' then some ([], r)
    else if c = '\\' then
      match r with
      | 'u' :: h₁ :: h₂ :: h₃ :: h₄ :: r₁ =>
        match Text.hexDigit? h₁, Text.hexDigit? h₂, Text.hexDigit? h₃, Text.hexDigit? h₄ with
        | some a, some b, some c, some d =>
          (readUnits r₁).map fun (units, rest) =>
            ((a * 0x1000 + b * 0x100 + c * 0x10 + d) :: units, rest)
        | _, _, _, _ => none
      | e :: r₁ =>
        match escape? e with
        | some n => (readUnits r₁).map fun (units, rest) => (n :: units, rest)
        | none => none
      | [] => none
    else if c.toNat < 0x20 then none
    else (readUnits r).map fun (units, rest) => (c.toNat :: units, rest)

def isSurrogate (n : Nat) : Bool := 0xD800 ≤ n && n ≤ 0xDFFF

/-- The code points of code units: a high and a low surrogate make one. -/
def codePoints : List Nat → List Nat
  | n :: m :: r =>
    if 0xD800 ≤ n ∧ n ≤ 0xDBFF ∧ 0xDC00 ≤ m ∧ m ≤ 0xDFFF then
      (0x10000 + (n - 0xD800) * 0x400 + (m - 0xDC00)) :: codePoints r
    else n :: codePoints (m :: r)
  | l => l

def ofUnits (units : List Nat) : Json :=
  let l := codePoints units
  if l.any isSurrogate then .broken l else .str (l.map Char.ofNat)

/-- A member name, in which a surrogate that stands alone is read as U+FFFD. -/
def nameOfUnits (units : List Nat) : Text :=
  (codePoints units).map fun n => if isSurrogate n then '\uFFFD' else Char.ofNat n

/-- The fraction at the head of a text, if there is one. -/
def fraction (t : Text) : Text :=
  match t with
  | '.' :: c :: _ => if c.isDigit then '.' :: (t.drop 1).takeWhile Char.isDigit else []
  | _ => []

/-- The exponent at the head of a text, if there is one. -/
def exponent (t : Text) : Text :=
  let digits (r : Text) := r.takeWhile Char.isDigit
  match t with
  | e :: s :: r =>
    if e ≠ 'e' ∧ e ≠ 'E' then []
    else if s = '+' ∨ s = '-' then if digits r = [] then [] else e :: s :: digits r
    else if s.isDigit then e :: digits (s :: r)
    else []
  | _ => []

/-- The digits of a whole number: a zero alone, or digits of which the first is not zero. -/
def wholeDigits (t : Text) : Text :=
  match t with
  | '0' :: _ => ['0']
  | _ => t.takeWhile Char.isDigit

/-- Only the digits of an integer are limited. -/
def readNumber (t : Text) : Reading Json :=
  let sign : Text := if t.startsWith "-" then ['-'] else []
  let whole := wholeDigits (t.drop sign.length)
  if whole = [] then .error .malformed
  else
    let r := t.drop (sign.length + whole.length)
    let tail := fraction r ++ exponent (r.drop (fraction r).length)
    if tail ≠ [] then .ok (.real (sign ++ whole ++ tail), r.drop tail.length)
    else if Integer.maxDigits < whole.length then .error (.overlong whole.length)
    else
      let n : Int := Nat.ofDigitChars 10 whole 0
      .ok (.int (if sign = [] then n else -n), r)

/-- The names that stand for values. -/
def names : List (Text × Json) :=
  [("null", .null), ("true", .bool true), ("false", .bool false), ("NaN", .real "NaN"),
    ("Infinity", .real "Infinity"), ("-Infinity", .real "-Infinity")]

def readName? (t : Text) : Option (Json × Text) :=
  (names.find? fun n => t.startsWith n.1).map fun n => (n.2, t.drop n.1.length)

mutual

/-- A value at the head of a text, and what follows it. The fuel bounds the recursion, and the room
says how many containers may still be opened. -/
def readValue : Nat → Nat → Text → Reading Json
  | 0, _, _ => .error .malformed
  | fuel + 1, room, t =>
    match t with
    | '"' :: r =>
      match readUnits r with
      | some (units, rest) => .ok (ofUnits units, rest)
      | none => .error .malformed
    | '[' :: r =>
      match room, skipSpace r with
      | 0, _ => .error (.tooDeep .array)
      | _ + 1, ']' :: rest => .ok (.arr [], rest)
      | room + 1, r => (readItems fuel room r).map fun (items, rest) => (.arr items, rest)
    | '{' :: r =>
      match room, skipSpace r with
      | 0, _ => .error (.tooDeep .object)
      | _ + 1, '}' :: rest => .ok (ofMembers [], rest)
      | room + 1, r =>
        (readMembers fuel room r).map fun (members, rest) => (ofMembers members, rest)
    | t =>
      match readName? t with
      | some named => .ok named
      | none => readNumber t

/-- The items of an array up to its closing bracket. -/
def readItems : Nat → Nat → Text → Reading (List Json)
  | 0, _, _ => .error .malformed
  | fuel + 1, room, t =>
    match readValue fuel room t with
    | .error fault => .error fault
    | .ok (item, r) =>
      match skipSpace r with
      | ']' :: rest => .ok ([item], rest)
      | ',' :: rest =>
        (readItems fuel room (skipSpace rest)).map fun (items, rest) => (item :: items, rest)
      | _ => .error .malformed

/-- The members of an object up to its closing brace. -/
def readMembers : Nat → Nat → Text → Reading (List (Text × Json))
  | 0, _, _ => .error .malformed
  | fuel + 1, room, t =>
    match t with
    | '"' :: r =>
      match readUnits r with
      | none => .error .malformed
      | some (units, r) =>
        match skipSpace r with
        | ':' :: r =>
          match readValue fuel room (skipSpace r) with
          | .error fault => .error fault
          | .ok (value, r) =>
            match skipSpace r with
            | '}' :: rest => .ok ([(nameOfUnits units, value)], rest)
            | ',' :: rest =>
              (readMembers fuel room (skipSpace rest)).map fun (members, rest) =>
                ((nameOfUnits units, value) :: members, rest)
            | _ => .error .malformed
        | _ => .error .malformed
    | _ => .error .malformed

end

/-- The length of the number or the name at the head of a text, or zero. -/
def scalarLength (t : Text) : Except ReadFault Nat :=
  match (readName? t).elim (readNumber t) .ok with
  | .ok (_, rest) => .ok (t.length - rest.length)
  | .error .malformed => .ok 0
  | .error fault => .error fault

/-- The value that a whole text stands for. -/
def read (t : Text) : Except ReadFault Json :=
  match readValue (2 * t.length + 2) maxDepth (skipSpace t) with
  | .ok (value, rest) => if skipSpace rest = [] then .ok value else .error .malformed
  | .error fault => .error fault

end ConfigAudit.Json
