import ConfigAudit.Checked
import ConfigAudit.Json.Fault
import ConfigAudit.Number.Binary64
import ConfigAudit.Number.Integer

/-! Decoding JSON values. A decoder reports every fault that it meets, in the order in which the
fields are declared. -/
namespace ConfigAudit

/-- A decoded value, or its faults. -/
abbrev Decoded := Checked Fault

namespace Decoded

def fault (cause : Cause) : Decoded α := .faulty [⟨cause, []⟩]

def within (s : Step) (d : Decoded α) : Decoded α := d.mapFaults (·.within s)

end Decoded

/-- Values that are written as one of a fixed set of names. -/
class Choice (α : Type) where
  choices : List α
  label : α → Text

/-- Every value is among the choices, and no two have the same name. -/
class LawfulChoice (α : Type) [Choice α] : Prop where
  mem_choices (a : α) : a ∈ Choice.choices
  label_injective {a b : α} : Choice.label a = Choice.label b → a = b

abbrev Decoder (α : Type) := Json → Decoded α

namespace Decoder

def str : Decoder Text
  | .str t => .ok t
  | .broken _ => .fault .brokenText
  | _ => .fault .notText

/-- A number without a fraction counts as an integer if it lies between the bounds of a word, which
cannot be told from what is rounded to them. -/
def integerOfReal (x : Binary64) : Decoded Int :=
  match x.toInteger with
  | .ok n => if n.natAbs < 0x8000000000000000 then .ok n else .fault .overlongInteger
  | .error .notFinite => .fault .notFinite
  | .error .fractional => .fault .fractionalInteger

/-- Booleans count as zero and one, and numbers may be written as text. -/
def integer : Decoder Int
  | .int n => .ok n
  | .real t => integerOfReal (.ofLiteral t)
  | .bool b => .ok (if b then 1 else 0)
  | .str t => match Integer.ofText t with
    | .ok n => .ok n
    | .error .unreadable => .fault .unreadableInteger
    | .error .tooLong => .fault .overlongInteger
  | .broken _ => .fault .brokenText
  | _ => .fault .notInteger

/-- Whether a number is a signed word of 64 bits. -/
def isWord (n : Int) : Bool := -0x8000000000000000 ≤ n && n < 0x8000000000000000

/-- Zero and one count as booleans. -/
def booleanOfWord (n : Int) : Decoded Bool :=
  if n = 0 then .ok false
  else if n = 1 then .ok true
  else .fault .unreadableBoolean

/-- Booleans may be written as words or as numbers without a fraction. A number that is not a word is
not even looked at. -/
def boolean : Decoder Bool
  | .bool b => .ok b
  | .int n => if isWord n then booleanOfWord n else .fault .notBoolean
  | .real t => match integerOfReal (.ofLiteral t) with
    | .ok n => booleanOfWord n
    | .faulty _ => .fault .notBoolean
  | .str t => match Switch.ofText? t with
    | some b => .ok b
    | none => .fault .unreadableBoolean
  | .broken _ => .fault .brokenText
  | _ => .fault .notBoolean

def score : Decoder Int := fun j =>
  (integer j).check fun n =>
    if 100 < n then Decoded.fault (.above 100)
    else if n < 0 then Decoded.fault (.below 0)
    else .ok n

def choice [Choice α] : Decoder α := fun j =>
  let found := match j with
    | .str t => (Choice.choices (α := α)).find? (Choice.label · = t)
    | _ => none
  match found with
  | some a => .ok a
  | none => .fault (.notAmong ((Choice.choices (α := α)).map Choice.label))

def nullable (d : Decoder α) : Decoder (Option α)
  | .null => .ok none
  | j => some <$> d j

def items (d : Decoder α) (l : List Json) : Decoded (List α) :=
  .all (l.mapIdx fun i j => (d j).within (.index i))

def list (d : Decoder α) : Decoder (List α)
  | .arr l => items d l
  | _ => .fault .notList

def tuple (d : Decoder α) : Decoder (List α)
  | .arr l => items d l
  | _ => .fault .notTuple

/-- The members of an object become the fields of a record. -/
def record (name : Text) (d : List (Text × Json) → Decoded α) : Decoder α
  | .obj members => d members
  | _ => .fault (.notRecord name)

end Decoder

/-- The names of a field: the one it is written under, and another one that is read too. -/
structure FieldName where
  written : Text
  other : Text
  deriving DecidableEq

namespace FieldName

instance : Coe String FieldName := ⟨fun s => ⟨s, s⟩⟩

/-- The member of a field; the written name wins over the other one. -/
def find? (name : FieldName) (members : List (Text × Json)) : Option (Text × Json) :=
  match Json.lookup name.written members with
  | some j => some (name.written, j)
  | none => (Json.lookup name.other members).map fun j => (name.other, j)

def required (name : FieldName) (d : Decoder α) (members : List (Text × Json)) : Decoded α :=
  match name.find? members with
  | some (key, j) => (d j).within (.key key)
  | none => (Decoded.fault .missing).within (.key name.written)

def optional (name : FieldName) (default : α) (d : Decoder α) (members : List (Text × Json)) :
    Decoded α :=
  match name.find? members with
  | some (key, j) => (d j).within (.key key)
  | none => .ok default

end FieldName
end ConfigAudit
