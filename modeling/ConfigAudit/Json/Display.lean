import ConfigAudit.Json.Basic
import ConfigAudit.Number.Binary64
import ConfigAudit.Text.Quoted

/-! JSON values inside sentences: how they are shown, what kind they are, and which are empty. -/
namespace ConfigAudit.Json

mutual

/-- A value as it is shown inside another one: texts are quoted. -/
def literal : Json → Text
  | null => "None"
  | bool b => if b then "True" else "False"
  | int n => Text.ofInt n
  | real t => (Binary64.ofLiteral t).text
  | str t => t.quoted
  | broken codePoints => Text.quotedCodes codePoints
  | arr items => "[" ++ Text.join ", " (literals items) ++ "]"
  | obj members => "\x7b" ++ Text.join ", " (memberLiterals members) ++ "\x7d"

def literals : List Json → List Text
  | [] => []
  | j :: r => literal j :: literals r

def memberLiterals : List (Text × Json) → List Text
  | [] => []
  | (name, j) :: r => (name.quoted ++ ": " ++ literal j) :: memberLiterals r

end

/-- A value as it is shown on its own: a text stands for itself. -/
def display : Json → Text
  | str t => t
  | j => literal j

def kind : Json → Text
  | null => "NoneType"
  | bool _ => "bool"
  | int _ => "int"
  | real _ => "float"
  | str _ | broken _ => "str"
  | arr _ => "list"
  | obj _ => "dict"

/-- Zero, and everything that is empty, is not. -/
def isTruthy : Json → Bool
  | null => false
  | bool b => b
  | int n => n ≠ 0
  | real t => !(Binary64.ofLiteral t).isZero
  | str t => t ≠ []
  | broken codePoints => !codePoints.isEmpty
  | arr items => !items.isEmpty
  | obj members => !members.isEmpty

end ConfigAudit.Json
