import ConfigAudit.Check.Block
import ConfigAudit.Check.Credential
import ConfigAudit.Check.Hardening
import ConfigAudit.Check.Service

/-! Checks as parts of an audit, and the built-in ones in report order. -/
namespace ConfigAudit

/-- A configuration as the checks see it. -/
structure Document where
  lines : List Line
  inventory : Inventory

def Document.ofText (t : Text) : Document := ⟨Line.ofText t, .ofText t⟩

/-- A check answers with its issues, or fails. -/
structure Check where
  name : Text
  category : Option Text := none
  run : Policy → Document → Option (List Issue)

namespace Check

def ofFindings (name : Text) (category : Option Text)
    (findings : Policy → Document → List Finding) : Check :=
  ⟨name, category, fun p d => some ((findings p d).map Finding.issue)⟩

def standard : List Check :=
  [ofFindings "weak_passwords" none fun p d => weakPasswords p d.lines,
    ofFindings "insecure_services" none fun p d => insecureServices p d.lines,
    ofFindings "missing_access_control" (some Finding.missingAccessControl) fun _ d =>
      missingAccessControl d.inventory,
    ofFindings "unused_interfaces" none fun _ d => unusedInterfaces d.inventory,
    ofFindings "best_practices" none fun p d => bestPractices p d.lines]

/-- The check that always fails. -/
def failing : Check := ⟨"failing", none, fun _ _ => none⟩

def named? (name : Text) : Option Check := (standard ++ [failing]).find? (·.name = name)

/-- The issues of some checks in their order; a check that fails adds none. -/
def runAll (checks : List Check) (p : Policy) (d : Document) : List Issue :=
  checks.flatMap fun c => (c.run p d).getD []

end Check
end ConfigAudit
