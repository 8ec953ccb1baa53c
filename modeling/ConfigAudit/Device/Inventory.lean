import ConfigAudit.Text.Basic

/-! What a configuration declares: interfaces, VTY lines and access lists, each in file order. -/
namespace ConfigAudit

/-- The administrative state of an interface. -/
inductive InterfaceStatus where
  | active
  | shutdown
  | unknown
  deriving DecidableEq, Inhabited

/-- An `interface` block. An empty address or access list means that the directive named none. -/
structure Interface where
  name : Text
  ipAddress : Option Text := none
  status : InterfaceStatus := .unknown
  acl : Option Text := none
  lineNumber : Int
  deriving DecidableEq, Inhabited

/-- A `line vty` block, which governs remote sessions. -/
structure VtyLine where
  range : Text
  password : Option Text := none
  transport : List Text := []
  accessClass : Option Text := none
  lineNumber : Int
  deriving DecidableEq, Inhabited

structure Inventory where
  interfaces : List Interface := []
  vtyLines : List VtyLine := []
  acls : List Text := []
  deriving DecidableEq, Inhabited

structure InventorySummary where
  totalInterfaces : Int := 0
  totalVtyLines : Int := 0
  totalAcls : Int := 0
  deriving DecidableEq, Inhabited

namespace Inventory

instance : Append Inventory where
  append a b :=
    ⟨a.interfaces ++ b.interfaces, a.vtyLines ++ b.vtyLines, a.acls ++ b.acls⟩

def summary (i : Inventory) : InventorySummary :=
  ⟨i.interfaces.length, i.vtyLines.length, i.acls.length⟩

end Inventory

/-- Named, and not by the empty text. -/
def isNamed (name : Option Text) : Bool := name.any (· ≠ [])

end ConfigAudit
