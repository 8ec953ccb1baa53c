import ConfigAudit.Text.Basic

/-! The lines of a configuration: what stands between line feeds, stripped and numbered from one. -/
namespace ConfigAudit

structure Line where
  number : Int
  text : Text
  deriving DecidableEq, Inhabited

namespace Line

/-- How a finding names the line of a number. -/
def locate (number : Int) : Text := "Line " ++ Text.ofInt number

def location (l : Line) : Text := locate l.number

def isComment (l : Line) : Bool := l.text.startsWith "!"

def numberFrom (start : Int) : List Text → List Line
  | [] => []
  | t :: r => ⟨start, t⟩ :: numberFrom (start + 1) r

/-- The empty text has one empty line. -/
def ofText (t : Text) : List Line := numberFrom 1 ((t.split '\n').map Text.strip)

end Line
end ConfigAudit
