import ConfigAudit.Text.Basic

/-! JSON values. Integers are exact and unbounded; the members of an object keep their order. -/
namespace ConfigAudit

inductive Json where
  | null
  | bool (value : Bool)
  | int (value : Int)
  /-- A number that is not an integer, as it was written. -/
  | real (literal : Text)
  | str (value : Text)
  /-- A string in which a surrogate stands alone, by its code points. -/
  | broken (codePoints : List Nat)
  | arr (items : List Json)
  | obj (members : List (Text × Json))
  deriving BEq, Inhabited

namespace Json

/-- The value of the first member of that name. -/
def lookup (name : Text) : List (Text × Json) → Option Json
  | [] => none
  | (k, v) :: r => if k = name then some v else lookup name r

/-- Sets a member: in place when the name is there, at the end otherwise. -/
def put (name : Text) (value : Json) : List (Text × Json) → List (Text × Json)
  | [] => [(name, value)]
  | (k, v) :: r => if k = name then (k, value) :: r else (k, v) :: put name value r

/-- The object of some members, of which the last one of each name counts. -/
def ofMembers (members : List (Text × Json)) : Json :=
  .obj (members.foldl (fun acc m => put m.1 m.2 acc) [])

def ofOption (encode : α → Json) : Option α → Json
  | none => .null
  | some a => encode a

def ofList (encode : α → Json) (l : List α) : Json := .arr (l.map encode)

def texts (l : List Text) : Json := ofList .str l

def optionalText : Option Text → Json := ofOption .str

end Json
end ConfigAudit
