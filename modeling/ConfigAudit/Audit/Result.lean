import ConfigAudit.Audit.Score
import ConfigAudit.Check.Basic
import ConfigAudit.Password.Analysis

/-! The audit of a configuration and, where one is given, of a password. -/
namespace ConfigAudit

structure AuditResult where
  totalIssues : Int
  critical : Int
  high : Int
  medium : Int
  low : Int
  securityScore : Int
  issues : List Issue
  recommendations : List Text
  passwordAnalysis : Option PasswordAnalysis := none
  configSummary : InventorySummary
  deriving DecidableEq, Inhabited

def AuditResult.counts (r : AuditResult) : SeverityCounts := ⟨r.critical, r.high, r.medium, r.low⟩

/-- A policy and the checks to run under it. -/
structure Auditor where
  policy : Policy := {}
  checks : List Check := Check.standard

namespace Auditor

def analyzePassword (a : Auditor) (password : Option Text) : PasswordAnalysis :=
  Password.analyze a.policy password

/-- No text is audited as the empty one, and an empty password is not analyzed. The findings on a
password follow those of the checks. -/
def analyze (a : Auditor) (config password : Option Text) : AuditResult :=
  let document := Document.ofText (config.getD [])
  let analysis := (password.filter (· ≠ [])).map fun t => a.analyzePassword (some t)
  let issues := Check.runAll a.checks a.policy document ++ analysis.elim [] (·.issues)
  let counts := SeverityCounts.ofIssues issues
  let total := score (a.policy.weightsFor (analysis.map (·.strength))) counts
  { totalIssues := counts.total
    critical := counts.critical
    high := counts.high
    medium := counts.medium
    low := counts.low
    securityScore := total
    issues := issues
    recommendations := (Advice.given counts total).map (·.text)
    passwordAnalysis := analysis
    configSummary := document.inventory.summary }

end Auditor
end ConfigAudit
