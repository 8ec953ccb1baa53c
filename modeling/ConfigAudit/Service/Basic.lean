import ConfigAudit.Audit.Result
import ConfigAudit.Service.Failure
import ConfigAudit.Settings.Basic

/-! The state of the service: its settings, and the auditor that its first analysis has made. -/
namespace ConfigAudit

structure Service where
  settings : Settings := {}
  auditor : Option Auditor := none
  deriving Inhabited

/-- What carries out an analysis: the auditor of the service, or one that always fails. -/
inductive Engine where
  | working
  | failing (message : Text)
  deriving DecidableEq, Inhabited

namespace Service

/-- The auditor of the service. It is made from the settings at its first use and then kept. -/
def obtainAuditor (s : Service) : Except Failure Auditor × Service :=
  match s.auditor with
  | some a => (.ok a, s)
  | none =>
    match s.settings.policy with
    | .ok p =>
      let a : Auditor := { policy := p }
      (.ok a, { s with auditor := some a })
    | .faulty misfits => (.error (.policy misfits), s)

def analyze (s : Service) (config password : Option Text) :
    Except Failure AuditResult × Service :=
  let (a, s) := s.obtainAuditor
  (a.map (·.analyze config password), s)

def analyzePassword (s : Service) (password : Option Text) :
    Except Failure PasswordAnalysis × Service :=
  let (a, s) := s.obtainAuditor
  (a.map (·.analyzePassword password), s)

/-- The next analysis makes a new auditor. -/
def dropAuditor (s : Service) : Service := { s with auditor := none }

def assign (s : Service) (name : Text) (value : Json) : Service :=
  { s with settings := s.settings.assign name value }

end Service
end ConfigAudit
