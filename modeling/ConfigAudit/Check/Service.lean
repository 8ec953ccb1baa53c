import ConfigAudit.Check.Credential

/-! Management services that send their traffic in clear text. -/
namespace ConfigAudit.Check

def telnetFindings (l : Line) : List Finding :=
  if l.text.includes "transport input telnet" || l.text.includes "transport input all" then
    [.telnet l.number]
  else []

/-- A line that begins with `no` switches the server off. -/
def httpFindings (l : Line) : List Finding :=
  if l.text.includes "ip http server" && !l.text.startsWith "no " then [.httpServer l.number]
  else []

def insecureServices (p : Policy) (lines : List Line) : List Finding :=
  (judged p lines).flatMap fun l => telnetFindings l ++ httpFindings l

end ConfigAudit.Check
