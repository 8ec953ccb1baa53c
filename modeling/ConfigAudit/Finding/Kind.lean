import ConfigAudit.Device.Line
import ConfigAudit.Finding.Issue

/-! What the checks can find in a configuration, and how each finding is reported. -/
namespace ConfigAudit

/-- A directive that a hardened configuration contains. -/
inductive Hardening where
  | ssh
  | banner
  | logging
  | passwordEncryption
  deriving DecidableEq, Inhabited

namespace Hardening

/-- The text that shows the directive to be there. -/
def pattern : Hardening → Text
  | ssh => "transport input ssh"
  | banner => "banner"
  | logging => "logging"
  | passwordEncryption => "service password-encryption"

end Hardening

/-- A finding with what it depends on. Lines are given by their number. -/
inductive Finding where
  | weakCredential (line : Int) (credential : Text)
  | shortCredential (line : Int) (length : Nat)
  | plainEnablePassword (line : Int)
  | telnet (line : Int)
  | httpServer (line : Int)
  | openVtyLine (line : Int) (range : Text)
  | openInterface (line : Int) (name : Text)
  | unusedInterface (line : Int) (name : Text)
  | absent (directive : Hardening)
  deriving DecidableEq, Inhabited

namespace Finding

def weakAuthentication : Text := "Weak Authentication"

def insecureService : Text := "Insecure Service"

def missingAccessControl : Text := "Missing Access Control"

def bestPractice (severity : Severity) (title description recommendation reference : Text) :
    Issue where
  severity := severity
  category := "Security Best Practice"
  title := title
  description := description
  location := "Global configuration"
  recommendation := recommendation
  reference := reference

def issue : Finding → Issue
  | weakCredential n credential => {
      severity := .critical
      category := weakAuthentication
      title := "Weak password detected: \"" ++ credential ++ "\""
      description := Line.locate n ++ ": Found weak or default password \"" ++ credential ++ "\"."
      location := Line.locate n
      recommendation := "Use a strong password with at least 12 characters."
      reference := "CWE-521" }
  | shortCredential n length => {
      severity := .high
      category := weakAuthentication
      title := "Password too short"
      description :=
        Line.locate n ++ ": Password is only " ++ Text.ofNat length ++ " characters."
      location := Line.locate n
      recommendation := "Use passwords with at least 8-12 characters."
      reference := "CWE-521" }
  | plainEnablePassword n => {
      severity := .high
      category := weakAuthentication
      title := "Unencrypted enable password"
      description := Line.locate n ++ ": Using \"enable password\" stores password in plain text."
      location := Line.locate n
      recommendation := "Use \"enable secret\" instead."
      reference := "CWE-256" }
  | telnet n => {
      severity := .critical
      category := insecureService
      title := "Telnet enabled"
      description :=
        Line.locate n ++ ": Telnet (port 23) is enabled and sends credentials in plaintext."
      location := Line.locate n
      recommendation := "Use SSH instead of Telnet."
      reference := "CWE-319" }
  | httpServer n => {
      severity := .high
      category := insecureService
      title := "HTTP server enabled"
      description := Line.locate n ++ ": HTTP (port 80) is enabled for device administration."
      location := Line.locate n
      recommendation :=
        "Use HTTPS instead (\"no ip http server\" / \"ip http secure-server\")."
      reference := "CWE-319" }
  | openVtyLine n range => {
      severity := .high
      category := missingAccessControl
      title := "No access-class on VTY line"
      description :=
        "VTY line " ++ range ++
          " has no access-class configured, so remote management is reachable from any source."
      location := Line.locate n
      recommendation := "Configure an access-class to restrict management sources."
      reference := "CWE-284" }
  | openInterface n name => {
      severity := .medium
      category := missingAccessControl
      title := "No ACL on interface " ++ name
      description := "Interface " ++ name ++ " has no access control list."
      location := Line.locate n
      recommendation := "Consider adding an ACL with ip access-group."
      reference := "CWE-284" }
  | unusedInterface n name => {
      severity := .low
      category := "Configuration Optimization"
      title := "Unused interface: " ++ name
      description := "Interface " ++ name ++ " is shutdown or not configured."
      location := Line.locate n
      recommendation := "Ensure interface is properly shutdown if not needed." }
  | absent .ssh =>
    bestPractice .high "SSH not configured" "SSH is not configured for remote access."
      "Configure SSH for secure remote access (transport input ssh)." "N/A"
  | absent .banner =>
    bestPractice .low "No login banner"
      "No banner is configured to warn against unauthorized access."
      "Configure a legal warning with banner motd or banner login." "N/A"
  | absent .logging =>
    bestPractice .medium "Logging not configured"
      "No logging destination is configured, which limits incident investigation."
      "Send logs to a syslog server (logging host) and enable buffered logging." "CWE-778"
  | absent .passwordEncryption =>
    bestPractice .medium "Password encryption disabled"
      "service password-encryption is not enabled, so type 0 passwords are shown in plain text."
      "Enable service password-encryption." "CWE-256"

end Finding
end ConfigAudit
