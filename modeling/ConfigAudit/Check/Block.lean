import ConfigAudit.Device.Inventory
import ConfigAudit.Finding.Kind

/-! Access control and use of the declared blocks. -/
namespace ConfigAudit.Check

/-- VTY lines without an access class, then active interfaces without an access list. -/
def missingAccessControl (i : Inventory) : List Finding :=
  (i.vtyLines.filter (!isNamed ·.accessClass)).map (fun v => .openVtyLine v.lineNumber v.range) ++
    (i.interfaces.filter fun f => f.status = .active && !isNamed f.acl).map fun f =>
      .openInterface f.lineNumber f.name

def unusedInterfaces (i : Inventory) : List Finding :=
  (i.interfaces.filter (·.status ≠ .active)).map fun f => .unusedInterface f.lineNumber f.name

end ConfigAudit.Check
