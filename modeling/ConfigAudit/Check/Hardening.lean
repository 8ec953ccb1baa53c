import ConfigAudit.Device.Line
import ConfigAudit.Finding.Kind
import ConfigAudit.Policy

/-! Hardening directives that the whole configuration lacks. -/
namespace ConfigAudit.Check

/-- The directives that a policy asks for, in report order. -/
def requiredDirectives (p : Policy) : List Hardening :=
  if p.extendedBestPractices then [.ssh, .banner, .logging, .passwordEncryption] else [.ssh]

/-- A blank configuration has nothing to judge. -/
def bestPractices (p : Policy) (lines : List Line) : List Finding :=
  let whole := Text.join ['\n'] (lines.map (·.text))
  if whole.strip = [] then []
  else ((requiredDirectives p).filter fun d => !whole.includes d.pattern).map .absent

end ConfigAudit.Check
