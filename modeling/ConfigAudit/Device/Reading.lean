import ConfigAudit.Device.Line
import ConfigAudit.Device.Inventory

/-! Reading the inventory off the lines in one pass. A block stays open until a `!` line, the next
header or the end; inside a block a later directive overrides an earlier one. -/
namespace ConfigAudit

/-- The word at a position, or the empty text. -/
def wordAt (t : Text) (i : Nat) : Text := t.words.getD i []

def Interface.apply (i : Interface) (t : Text) : Interface :=
  if t.startsWith "ip address" then { i with ipAddress := some (wordAt t 2) }
  else if t = "no shutdown" then { i with status := .active }
  else if t = "shutdown" then { i with status := .shutdown }
  else if t.includes "ip access-group" then { i with acl := some (wordAt t 2) }
  else i

def VtyLine.apply (v : VtyLine) (t : Text) : VtyLine :=
  if t = "password" ∨ t.startsWith "password " then
    { v with password := some (Text.strip (t.drop "password".length)) }
  else
    match Text.afterFirst "transport input" t with
    | some protocols => { v with transport := protocols.words }
    | none => if t.includes "access-class" then { v with accessClass := some (wordAt t 1) } else v

/-- The block that the next directive belongs to. -/
inductive OpenBlock where
  | outside
  | interface (i : Interface)
  | vty (v : VtyLine)
  deriving DecidableEq, Inhabited

namespace OpenBlock

/-- The block that a header line opens. -/
def ofHeader? (l : Line) : Option OpenBlock :=
  if l.text.startsWith "interface " then
    some (.interface {
      name := Text.strip (l.text.drop "interface ".length), lineNumber := l.number })
  else if l.text.startsWith "line vty" then
    some (.vty { range := Text.strip (l.text.drop "line vty".length), lineNumber := l.number })
  else none

def apply (t : Text) : OpenBlock → OpenBlock
  | outside => outside
  | interface i => interface (i.apply t)
  | vty v => vty (v.apply t)

/-- What a block adds to the inventory when it closes. -/
def close : OpenBlock → Inventory
  | outside => {}
  | interface i => { interfaces := [i] }
  | vty v => { vtyLines := [v] }

end OpenBlock

namespace Inventory

/-- The access-list entry that a line declares, inside a block as well as outside. -/
def aclEntry (t : Text) : Inventory :=
  if t.startsWith "access-list " || t.startsWith "ip access-list" then { acls := [t] } else {}

def readFrom (block : OpenBlock) : List Line → Inventory
  | [] => block.close
  | l :: r =>
    if l.text = "!" then block.close ++ readFrom .outside r
    else
      match OpenBlock.ofHeader? l with
      | some opened => block.close ++ (aclEntry l.text ++ readFrom opened r)
      | none => aclEntry l.text ++ readFrom (block.apply l.text) r

def ofLines (lines : List Line) : Inventory := readFrom .outside lines

def ofText (t : Text) : Inventory := ofLines (Line.ofText t)

end Inventory
end ConfigAudit
