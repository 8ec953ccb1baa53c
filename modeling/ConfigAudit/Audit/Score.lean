import ConfigAudit.Finding.Issue
import ConfigAudit.Policy

/-! The score of an audit, its label, and the advice that goes with it. -/
namespace ConfigAudit

/-- The starting score less the penalties, kept between 0 and 100. -/
def score (w : PenaltyWeights) (c : SeverityCounts) : Int :=
  max 0 (min 100 (w.base -
    (c.critical * w.critical + c.high * w.high + c.medium * w.medium + c.low * w.low)))

inductive Rating where
  | excellent
  | good
  | fair
  | poor
  | critical
  deriving DecidableEq, Inhabited

namespace Rating

def ofScore (s : Int) : Rating :=
  if 90 ≤ s then excellent
  else if 75 ≤ s then good
  else if 50 ≤ s then fair
  else if 25 ≤ s then poor
  else critical

def label : Rating → Text
  | excellent => "Excellent"
  | good => "Good"
  | fair => "Fair"
  | poor => "Poor"
  | critical => "Critical"

end Rating

inductive Advice where
  | fixCritical
  | fixHigh
  | poorPosture
  | bestPractices
  | regularAudits
  deriving DecidableEq, Inhabited

namespace Advice

def text : Advice → Text
  | fixCritical => "URGENT: Address all critical vulnerabilities immediately."
  | fixHigh => "HIGH PRIORITY: Fix high-severity issues as soon as possible."
  | poorPosture => "Overall security posture is poor."
  | bestPractices => "Refer to Cisco security best practices."
  | regularAudits => "Regularly audit your network configurations."

/-- The last two are always given. -/
def given (c : SeverityCounts) (score : Int) : List Advice :=
  (if 0 < c.critical then [fixCritical] else []) ++ (if 0 < c.high then [fixHigh] else []) ++
    (if score < 50 then [poorPosture] else []) ++ [bestPractices, regularAudits]

end Advice
end ConfigAudit
