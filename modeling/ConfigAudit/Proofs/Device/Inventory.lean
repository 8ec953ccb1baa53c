import ConfigAudit.Device.Inventory

/-! Inventories are joined part by part, which makes them a monoid. -/
namespace ConfigAudit

namespace Inventory

theorem append_def (a b : Inventory) :
    a ++ b = ⟨a.interfaces ++ b.interfaces, a.vtyLines ++ b.vtyLines, a.acls ++ b.acls⟩ := rfl

@[simp] theorem append_interfaces (a b : Inventory) :
    (a ++ b).interfaces = a.interfaces ++ b.interfaces := rfl

@[simp] theorem append_vtyLines (a b : Inventory) :
    (a ++ b).vtyLines = a.vtyLines ++ b.vtyLines := rfl

@[simp] theorem append_acls (a b : Inventory) : (a ++ b).acls = a.acls ++ b.acls := rfl

@[simp] theorem empty_append (a : Inventory) : ({} : Inventory) ++ a = a := rfl

@[simp] theorem append_empty (a : Inventory) : a ++ ({} : Inventory) = a := by
  simp [append_def]

theorem append_assoc (a b c : Inventory) : a ++ b ++ c = a ++ (b ++ c) := by
  simp [append_def]

end Inventory
end ConfigAudit
