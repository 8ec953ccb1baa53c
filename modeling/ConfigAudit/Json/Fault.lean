import ConfigAudit.Json.Reader

/-! What can be wrong with a JSON value that has to become a record, and where. -/
namespace ConfigAudit

/-- One step into a JSON value. -/
inductive Step where
  | key (name : Text)
  | index (n : Nat)
  deriving DecidableEq, Inhabited

inductive Cause where
  | missing
  | notText
  /-- A string in which a surrogate stands alone. -/
  | brokenText
  | notInteger
  | notFinite
  | fractionalInteger
  | unreadableInteger
  | overlongInteger
  | notBoolean
  | unreadableBoolean
  | notList
  | notTuple
  | notMap
  | notAmong (choices : List Text)
  | above (bound : Int)
  | below (bound : Int)
  | notRecord (name : Text)
  | notObject
  | textForFile
  /-- A body that is not the JSON it is announced as. -/
  | malformedBody
  | unreadableJson (fault : Json.ReadFault)
  deriving DecidableEq, Inhabited

namespace Cause

def code : Cause → Text
  | missing => "missing"
  | notText => "string_type"
  | brokenText => "string_unicode"
  | notInteger => "int_type"
  | notFinite => "finite_number"
  | fractionalInteger => "int_from_float"
  | unreadableInteger => "int_parsing"
  | overlongInteger => "int_parsing_size"
  | notBoolean => "bool_type"
  | unreadableBoolean => "bool_parsing"
  | notList => "list_type"
  | notTuple => "tuple_type"
  | notMap => "dict_type"
  | notAmong _ => "enum"
  | above _ => "less_than_equal"
  | below _ => "greater_than_equal"
  | notRecord _ => "model_type"
  | notObject => "model_attributes_type"
  | textForFile | unreadableJson _ => "value_error"
  | malformedBody => "json_invalid"

/-- Choices between apostrophes, with commas and an `or` before the last one. -/
def enumerate : List Text → Text
  | [] => []
  | [a] => "'" ++ a ++ "'"
  | [a, b] => "'" ++ a ++ "' or '" ++ b ++ "'"
  | a :: r => "'" ++ a ++ "', " ++ enumerate r

def message : Cause → Text
  | missing => "Field required"
  | notText => "Input should be a valid string"
  | brokenText =>
    "Input should be a valid string, unable to parse raw data as a unicode string"
  | notInteger => "Input should be a valid integer"
  | notFinite => "Input should be a finite number"
  | fractionalInteger =>
    "Input should be a valid integer, got a number with a fractional part"
  | unreadableInteger =>
    "Input should be a valid integer, unable to parse string as an integer"
  | overlongInteger => "Unable to parse input string as an integer, exceeded maximum size"
  | notBoolean => "Input should be a valid boolean"
  | unreadableBoolean => "Input should be a valid boolean, unable to interpret input"
  | notList => "Input should be a valid list"
  | notTuple => "Input should be a valid tuple"
  | notMap => "Input should be a valid dictionary"
  | notAmong choices => "Input should be " ++ enumerate choices
  | above bound => "Input should be less than or equal to " ++ Text.ofInt bound
  | below bound => "Input should be greater than or equal to " ++ Text.ofInt bound
  | notRecord name => "Input should be a valid dictionary or instance of " ++ name
  | notObject => "Input should be a valid dictionary or object to extract fields from"
  | textForFile => "Value error, Expected UploadFile, received: <class 'str'>"
  | malformedBody => "JSON decode error"
  | unreadableJson fault => "Value error, " ++ fault.message

end Cause

structure Fault where
  cause : Cause
  path : List Step := []
  deriving DecidableEq, Inhabited

namespace Fault

/-- What stops everything, if the fault is of that kind: nesting that is too deep. -/
def stop? (f : Fault) : Option Json.ReadFault :=
  match f.cause with
  | .unreadableJson (.tooDeep container) => some (.tooDeep container)
  | _ => none

def within (s : Step) (f : Fault) : Fault := { f with path := s :: f.path }

def stepJson : Step → Json
  | .key name => .str name
  | .index n => .int n

/-- The steps of the path with points between them. -/
def location (f : Fault) : Text :=
  Text.join "." (f.path.map fun
    | .key name => name
    | .index n => Text.ofNat n)

def toJson (f : Fault) : Json :=
  .obj [("type", .str f.cause.code), ("loc", .ofList stepJson f.path),
    ("msg", .str f.cause.message)]

end Fault
end ConfigAudit
