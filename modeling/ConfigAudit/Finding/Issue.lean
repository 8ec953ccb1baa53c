import ConfigAudit.Text.Basic

/-! Issues as they are reported, and their number per severity. -/
namespace ConfigAudit

/-- Highest first. -/
inductive Severity where
  | critical
  | high
  | medium
  | low
  deriving DecidableEq, Inhabited

structure Issue where
  severity : Severity
  category : Text
  title : Text
  description : Text
  location : Text
  recommendation : Text
  /-- A weakness identifier. -/
  reference : Text := "N/A"
  deriving DecidableEq, Inhabited

structure SeverityCounts where
  critical : Int := 0
  high : Int := 0
  medium : Int := 0
  low : Int := 0
  deriving DecidableEq, Inhabited

namespace SeverityCounts

def total (c : SeverityCounts) : Int := c.critical + c.high + c.medium + c.low

def ofSeverities (l : List Severity) : SeverityCounts :=
  ⟨l.count .critical, l.count .high, l.count .medium, l.count .low⟩

def ofIssues (l : List Issue) : SeverityCounts := ofSeverities (l.map (·.severity))

end SeverityCounts
end ConfigAudit
