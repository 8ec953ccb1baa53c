import ConfigAudit.Proofs.Service.Gates

/-! The calls that can be made of a service. A call is rejected by the settings of the moment or else
served by an auditor, and what an auditor answers depends on nothing but the call. -/
namespace ConfigAudit

/-- The bodies of requests come as they were sent. -/
inductive Call where
  | analyze (config password : Option Text)
  | rate (password : Option Text)
  | text (body : Json)
  | file (first second : Option Upload) (password : Option Text)
  | password (body : Json)

inductive Answer where
  | invalid (faults : List Fault)
  | refused (refusal : Refusal)
  | failed (failure : Failure)
  | audit (result : AuditResult)
  | rating (analysis : PasswordAnalysis)
  | text (report : TextReport)
  | file (report : FileReport)

def Answer.ofOutcome {ε α : Type} (bad : ε → Answer) (good : α → Answer) : Except ε α → Answer
  | .error e => bad e
  | .ok a => good a

/-- A new auditor for some settings, unless they give no policy. -/
def Settings.newAuditor (s : Settings) : Except Failure Auditor :=
  match s.policy with
  | .ok p => .ok { policy := p }
  | .faulty misfits => .error (.policy misfits)

namespace Service

/-- What the service answers to a call, and what becomes of it. -/
def answer (s : Service) : Call → Answer × Service
  | .analyze config password =>
    let (outcome, s) := s.analyze config password
    (.ofOutcome .failed .audit outcome, s)
  | .rate password =>
    let (outcome, s) := s.analyzePassword password
    (.ofOutcome .failed .rating outcome, s)
  | .text body =>
    match TextRequest.ofJson body with
    | .faulty faults => (.invalid faults, s)
    | .ok r =>
      let (outcome, s) := s.handleText .working r
      (.ofOutcome .refused .text outcome, s)
  | .file first second password =>
    let (outcome, s) := s.handleFile .working first second password
    (.ofOutcome .refused .file outcome, s)
  | .password body =>
    match PasswordRequest.ofJson body with
    | .faulty faults => (.invalid faults, s)
    | .ok r =>
      let (outcome, s) := s.handlePassword .working r
      (.ofOutcome .failed .rating outcome, s)

section Obtain

variable {s : Service}

theorem obtainAuditor_of_some {a : Auditor} (h : s.auditor = some a) :
    s.obtainAuditor = (.ok a, s) := by
  rw [obtainAuditor, h]

theorem obtainAuditor_of_ok (h : s.auditor = none) {a : Auditor}
    (hmade : s.settings.newAuditor = .ok a) :
    s.obtainAuditor = (.ok a, { s with auditor := some a }) := by
  rw [obtainAuditor, h]
  unfold Settings.newAuditor at hmade
  cases hpolicy : s.settings.policy with
  | ok p =>
    rw [hpolicy] at hmade
    rw [← Except.ok.inj hmade]
  | faulty misfits =>
    rw [hpolicy] at hmade
    cases hmade

/-- Of a failure nothing is kept. -/
theorem obtainAuditor_of_error (h : s.auditor = none) {f : Failure}
    (hmade : s.settings.newAuditor = .error f) : s.obtainAuditor = (.error f, s) := by
  rw [obtainAuditor, h]
  unfold Settings.newAuditor at hmade
  cases hpolicy : s.settings.policy with
  | ok p =>
    rw [hpolicy] at hmade
    cases hmade
  | faulty misfits =>
    rw [hpolicy] at hmade
    rw [← Except.error.inj hmade]

theorem obtainAuditor_fst_of_none (h : s.auditor = none) :
    s.obtainAuditor.1 = s.settings.newAuditor := by
  cases hmade : s.settings.newAuditor with
  | ok a => rw [obtainAuditor_of_ok h hmade]
  | error f => rw [obtainAuditor_of_error h hmade]

theorem obtainAuditor_settings (s : Service) : s.obtainAuditor.2.settings = s.settings := by
  unfold obtainAuditor
  cases s.auditor with
  | some a => rfl
  | none => cases s.settings.policy <;> rfl

end Obtain

end Service

namespace Call

/-- The answer to a call that does not get as far as an auditor. -/
def rejection? (g : Settings) : Call → Option Answer
  | analyze _ _ | rate _ => none
  | text body =>
    match TextRequest.ofJson body with
    | .faulty faults => some (.invalid faults)
    | .ok r => (g.textRefusal? r.configText).map .refused
  | file first second _ =>
    match g.acceptFile (first.or second) with
    | .error refusal => some (.refused refusal)
    | .ok _ => none
  | password body =>
    match PasswordRequest.ofJson body with
    | .faulty faults => some (.invalid faults)
    | .ok _ => none

/-- The answer to a call for which no auditor could be made. -/
def failure (g : Settings) (f : Failure) : Call → Answer
  | analyze _ _ | rate _ | password _ => .failed f
  | text _ => .refused (g.failure .text f)
  | file _ _ _ => .refused (g.failure .file f)

/-- The answer that an auditor gives to a call. -/
inductive AnsweredBy (a : Auditor) : Call → Answer → Prop where
  | analyze (config password : Option Text) :
    AnsweredBy a (analyze config password) (.audit (a.analyze config password))
  | rate (password : Option Text) :
    AnsweredBy a (rate password) (.rating (a.analyzePassword password))
  | text {body : Json} {r : TextRequest} (hbody : TextRequest.ofJson body = .ok r) :
    AnsweredBy a (text body)
      (.text ⟨.ofScore (a.analyze r.configText r.password).securityScore,
        a.analyze r.configText r.password, r.configText.length⟩)
  | file {first second : Option Upload} {u : Upload} {name : Text} (password : Option Text)
      (hupload : first.or second = some u) (hname : u.filename = some name) :
    AnsweredBy a (file first second password)
      (.file ⟨name, u.content.length,
        .ofScore (a.analyze (Utf8.decodeLossy u.content) password).securityScore,
        a.analyze (Utf8.decodeLossy u.content) password⟩)
  | password {body : Json} {r : PasswordRequest} (hbody : PasswordRequest.ofJson body = .ok r) :
    AnsweredBy a (password body) (.rating (a.analyzePassword r.password))

/-- The answer to a call that got as far as asking for an auditor. -/
def AnsweredWith (g : Settings) (c : Call) (answer : Answer) : Except Failure Auditor → Prop
  | .ok a => c.AnsweredBy a answer
  | .error f => answer = c.failure g f

end Call

namespace Service

variable {s : Service} {c : Call}

/-- A rejected call leaves the service as it is. -/
theorem answer_of_rejection {a : Answer} (h : c.rejection? s.settings = some a) :
    s.answer c = (a, s) := by
  cases c with
  | analyze config password => cases h
  | rate password => cases h
  | text body =>
    simp only [Call.rejection?] at h
    simp only [answer]
    cases hbody : TextRequest.ofJson body with
    | faulty faults =>
      rw [hbody] at h
      rw [← Option.some.inj h]
    | ok r =>
      simp only [hbody, Option.map_eq_some_iff] at h
      obtain ⟨refusal, hrefusal, rfl⟩ := h
      simp only [handleText, hrefusal, Answer.ofOutcome]
  | file first second password =>
    simp only [Call.rejection?] at h
    simp only [answer, handleFile]
    cases haccept : s.settings.acceptFile (first.or second) with
    | error refusal =>
      rw [haccept] at h
      rw [← Option.some.inj h]
      rfl
    | ok f =>
      rw [haccept] at h
      cases h
  | password body =>
    simp only [Call.rejection?] at h
    simp only [answer]
    cases hbody : PasswordRequest.ofJson body with
    | faulty faults =>
      rw [hbody] at h
      rw [← Option.some.inj h]
    | ok r =>
      rw [hbody] at h
      cases h

theorem tryAnalyze_working (s : Service) (subject : Subject) (config : Text)
    (password : Option Text) :
    s.tryAnalyze .working subject config password =
      ((s.obtainAuditor.1.map (·.analyze config password)).mapError (s.settings.failure subject),
        s.obtainAuditor.2) := by
  simp only [tryAnalyze, analyze, obtainAuditor_settings]

/-- Any other call is answered with the auditor that the service has, or tries to make. -/
theorem answer_of_served (h : c.rejection? s.settings = none) :
    (s.answer c).2 = s.obtainAuditor.2 ∧
      c.AnsweredWith s.settings (s.answer c).1 s.obtainAuditor.1 := by
  cases c with
  | analyze config password =>
    refine ⟨rfl, ?_⟩
    simp only [answer, analyze]
    cases s.obtainAuditor.1 with
    | error f => rfl
    | ok a => exact .analyze config password
  | rate password =>
    refine ⟨rfl, ?_⟩
    simp only [answer, analyzePassword]
    cases s.obtainAuditor.1 with
    | error f => rfl
    | ok a => exact .rate password
  | text body =>
    simp only [Call.rejection?] at h
    cases hbody : TextRequest.ofJson body with
    | faulty faults =>
      rw [hbody] at h
      cases h
    | ok r =>
      simp only [hbody, Option.map_eq_none_iff] at h
      simp only [answer, hbody, handleText, h, tryAnalyze_working, true_and]
      cases s.obtainAuditor.1 with
      | error f => rfl
      | ok a => exact .text hbody
  | file first second password =>
    simp only [Call.rejection?] at h
    cases haccept : s.settings.acceptFile (first.or second) with
    | error refusal =>
      rw [haccept] at h
      cases h
    | ok f =>
      simp only [answer, handleFile, haccept, tryAnalyze_working, true_and]
      obtain ⟨u, name, hupload, hname, -, -, -, rfl⟩ :=
        (s.settings.acceptFile_eq_ok_iff _ f).mp haccept
      cases s.obtainAuditor.1 with
      | error failure => rfl
      | ok a => exact .file password hupload hname
  | password body =>
    simp only [Call.rejection?] at h
    cases hbody : PasswordRequest.ofJson body with
    | faulty faults =>
      rw [hbody] at h
      cases h
    | ok r =>
      simp only [answer, hbody, handlePassword, analyzePassword, true_and]
      cases s.obtainAuditor.1 with
      | error f => rfl
      | ok a => exact .password hbody

end Service
end ConfigAudit
