import ConfigAudit.Text.Basic

/-! Files of variable assignments: one `NAME=value` a line, with optional `export`, quotes and
comments. A line that does not fit is passed over. -/
namespace ConfigAudit.EnvFile

/-- A name, and its value if the line has one. -/
structure Binding where
  name : Text
  value : Option Text
  deriving DecidableEq

/-- Carriage returns, alone or before a line feed, end lines as line feeds do. -/
def unifyNewlines : Text → Text
  | [] => []
  | '\r' :: '\n' :: r => '\n' :: unifyNewlines r
  | '\r' :: r => '\n' :: unifyNewlines r
  | c :: r => c :: unifyNewlines r

def isInlineBlank (c : Char) : Bool := Text.isBlank c && c ≠ '\n'

def skipInline (t : Text) : Text := t.dropWhile isInlineBlank

def skipLine (t : Text) : Text := (t.dropWhile (· ≠ '\n')).drop 1

/-- The word `export` counts only before a blank. -/
def skipExport (t : Text) : Text :=
  if t.startsWith "export" && (t.drop 6).head?.any isInlineBlank then skipInline (t.drop 6) else t

/-- A name, or `none` before a comment; the rest follows. -/
def readName? (t : Text) : Option (Option Text × Text) :=
  match t with
  | '#' :: _ => some (none, t)
  | '\x27' :: r =>
    let name := r.takeWhile (· ≠ '\x27')
    match r.dropWhile (· ≠ '\x27') with
    | _ :: rest => if name = [] then none else some (some name, rest)
    | [] => none
  | _ =>
    let isPart (c : Char) := c ≠ '=' && c ≠ '#' && !Text.isBlank c
    let name := t.takeWhile isPart
    if name = [] then none else some (some name, t.dropWhile isPart)

/-- What stands before the closing quote, and what follows it. A backslash protects the character
behind it. -/
def readQuoted? (quote : Char) : Text → Option (Text × Text)
  | [] => none
  | '\\' :: c :: r => (readQuoted? quote r).map fun (body, rest) => ('\\' :: c :: body, rest)
  | c :: r =>
    if c = quote then some ([], r)
    else (readQuoted? quote r).map fun (body, rest) => (c :: body, rest)

/-- The escapes that single quotes know. -/
def singleEscape? (c : Char) : Option Char := if c = '\\' ∨ c = '\x27' then some c else none

/-- The escapes that double quotes know. -/
def doubleEscape? (c : Char) : Option Char :=
  match c with
  | '\\' | '\x27' | '"' => some c
  | 'a' => some '\x07'
  | 'b' => some '\x08'
  | 'f' => some '\x0C'
  | 'n' => some '\n'
  | 'r' => some '\r'
  | 't' => some '\t'
  | 'v' => some '\x0B'
  | _ => none

def unescape (escape? : Char → Option Char) : Text → Text
  | '\\' :: c :: r =>
    match escape? c with
    | some d => d :: unescape escape? r
    | none => '\\' :: unescape escape? (c :: r)
  | c :: r => c :: unescape escape? r
  | [] => []

/-- The part of a line before a comment, which begins with a `#` behind a blank. -/
def beforeComment : Text → Text
  | c :: '#' :: r => if Text.isBlank c then [] else c :: beforeComment ('#' :: r)
  | c :: r => c :: beforeComment r
  | [] => []

/-- The value at the head of what follows an equals sign, and the rest. A value without quotes goes
up to a comment or the end of the line. -/
def readValue? (t : Text) : Option (Text × Text) :=
  match skipInline t with
  | '\x27' :: r => (readQuoted? '\x27' r).map fun (body, rest) => (unescape singleEscape? body, rest)
  | '"' :: r => (readQuoted? '"' r).map fun (body, rest) => (unescape doubleEscape? body, rest)
  | _ => some ((beforeComment (t.takeWhile (· ≠ '\n'))).strip, t.dropWhile (· ≠ '\n'))

/-- What follows the end of a line, on which only a comment may still stand. -/
def endLine? (t : Text) : Option Text :=
  let r := skipInline t
  let r := if r.head? = some '#' then r.dropWhile (· ≠ '\n') else r
  match r with
  | [] => some []
  | '\n' :: rest => some rest
  | _ => none

/-- The binding at the head of a text that does not begin with a blank, and what follows it. -/
def readBinding (t : Text) : Option Binding × Text :=
  let t := skipExport t
  match readName? t with
  | none => (none, skipLine t)
  | some (name, r) =>
    let r := skipInline r
    let read : Option (Option Text × Text) :=
      match r with
      | '=' :: r₁ => (readValue? r₁).map fun (value, rest) => (some value, rest)
      | _ => some (none, r)
    match read with
    | none =>
      (none, skipLine (skipInline (r.drop 1)))
    | some (value, rest) =>
      match endLine? rest with
      | none => (none, skipLine rest)
      | some rest => (name.map fun n => ⟨n, value⟩, rest)

/-- The bindings of a text whose length bounds the number of its lines. -/
def readBindings : Nat → Text → List Binding
  | 0, _ => []
  | n + 1, t =>
    match t.dropWhile Text.isBlank with
    | [] => []
    | t =>
      let (binding, rest) := readBinding t
      binding.toList ++ readBindings n rest

/-- The value of a name in a list where later entries count. -/
def latest? (name : Text) : List (Text × α) → Option α
  | [] => none
  | (k, v) :: r => (latest? name r).or (if k = name then some v else none)

/-- A reference `${NAME}` or `${NAME:-default}` at the head of a text: its name, its default, and
what follows it. -/
def readReference? (t : Text) : Option (Text × Text × Text) :=
  match t with
  | '$' :: '\x7b' :: r =>
    let isPart (c : Char) := c ≠ '\x7d' && c ≠ ':'
    match r.dropWhile isPart with
    | '\x7d' :: rest => some (r.takeWhile isPart, [], rest)
    | ':' :: '-' :: r₁ =>
      match r₁.dropWhile (· ≠ '\x7d') with
      | _ :: rest => some (r.takeWhile isPart, r₁.takeWhile (· ≠ '\x7d'), rest)
      | [] => none
    | _ => none
  | _ => none

/-- A value with its references replaced. A name that is known without a value stands for the empty
text. The length of the value bounds the number of steps. -/
def expand (value? : Text → Option (Option Text)) : Nat → Text → Text
  | 0, t => t
  | _ + 1, [] => []
  | n + 1, c :: r =>
    match readReference? (c :: r) with
    | some (name, default, rest) =>
      (match value? name with
        | some v => v.getD []
        | none => default) ++ expand value? n rest
    | none => c :: expand value? n r

/-- Replaces the references in some bindings by earlier bindings, or else by given variables. -/
def resolve (environment : List (Text × Text)) (bindings : List Binding) :
    List (Text × Option Text) :=
  bindings.foldl
    (fun known b =>
      let value? (name : Text) :=
        (latest? name known).or ((latest? name environment).map some)
      known ++ [(b.name, b.value.map fun v => expand value? v.length v)])
    []

/-- A byte order mark at the front of a file is not part of its text. -/
def withoutMark (file : Text) : Text := if file.head? = some '\uFEFF' then file.drop 1 else file

/-- The variables that a file assigns, for a program that runs with some variables set. -/
def read (environment : List (Text × Text)) (file : Text) : List (Text × Option Text) :=
  let t := unifyNewlines (withoutMark file)
  resolve environment (readBindings t.length t)

end ConfigAudit.EnvFile
