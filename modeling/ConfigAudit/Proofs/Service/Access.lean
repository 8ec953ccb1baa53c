import ConfigAudit.Proofs.Text.Split
import ConfigAudit.Proofs.Text.Utf8
import ConfigAudit.Service.Access
import ConfigAudit.Service.Handling

/-! Access by key. A key decides on nothing but who is let in: with another key in the settings, the
service handles everything as before. -/
namespace ConfigAudit

theorem Utf8.encode_injective : Function.Injective encode :=
  Function.LeftInverse.injective decodeLossy_encode

namespace Settings

variable {s : Settings}

theorem isAuthEnabled_of_key {expected : Text} (h : s.apiKey = .proper (some expected))
    (hblank : expected.strip ≠ []) : s.isAuthEnabled = true := by
  rw [isAuthEnabled, h]
  exact decide_eq_true hblank

theorem isAuthEnabled_of_blank
    (h : ∀ expected, s.apiKey = .proper (some expected) → expected.strip = [])
    (hencoded : ∀ codePoints, s.apiKey ≠ .foreign (.broken codePoints)) :
    s.isAuthEnabled = false := by
  unfold isAuthEnabled
  split
  · rename_i key hkey
    cases key with
    | none => rfl
    | some expected => exact decide_eq_false (not_not_intro (h expected hkey))
  · rename_i codePoints hkey
    exact absurd hkey (hencoded codePoints)
  · rfl

/-- A key without an encoding keeps authentication on. -/
theorem keyFailure?_of_disabled (h : s.isAuthEnabled = false) (key : Option Text) :
    s.keyFailure? key = none := by
  unfold keyFailure?
  split
  · rename_i hkey
    rw [isAuthEnabled, hkey] at h
    cases h
  · rfl

theorem keyFailure?_of_proper {expected : Option Text} (h : s.apiKey = .proper expected)
    (key : Option Text) : s.keyFailure? key = none := by
  unfold keyFailure?
  rw [h]

theorem authenticate_of_disabled (h : s.isAuthEnabled = false) (key : Option Text) :
    s.authenticate key = .ok .anonymous := by
  unfold authenticate
  rw [h]
  rfl

theorem authenticate_missing (h : s.isAuthEnabled = true) {key : Option Text}
    (hkey : key = none ∨ key = some []) : s.authenticate key = .error .missingKey := by
  unfold authenticate
  rw [h]
  rcases hkey with rfl | rfl <;> rfl

/-- A key is the right one if it is the one in the settings, since no two texts have one
encoding. -/
theorem authenticate_some (h : s.isAuthEnabled = true) {expected : Text}
    (hexpected : s.apiKey = .proper (some expected)) {key : Text} (hkey : key ≠ []) :
    s.authenticate (some key) = if key = expected then .ok .static else .error .invalidKey := by
  obtain ⟨c, r, rfl⟩ := List.exists_cons_of_ne_nil hkey
  have htext : s.keyText? = some expected := by
    rw [keyText?, hexpected]
  unfold authenticate
  rw [h, htext]
  simp only [Bool.not_true, Bool.false_eq_true, if_false, Option.any_some, decide_eq_true_eq,
    Utf8.encode_injective.eq_iff]

/-- Nobody is let in by a comparison that cannot be made. -/
theorem keyFailure?_of_admitted {key : Option Text}
    (h : ∃ caller, s.authenticate key = .ok caller) : s.keyFailure? key = none := by
  unfold keyFailure?
  split
  · rename_i codePoints c r hkey
    obtain ⟨caller, hcaller⟩ := h
    have henabled : s.isAuthEnabled = true := by
      rw [isAuthEnabled, hkey]
    have htext : s.keyText? = none := by
      rw [keyText?, hkey]
    unfold authenticate at hcaller
    rw [henabled, htext] at hcaller
    cases hcaller
  · rfl

/-- The key of the settings lets everyone in who sends it. Where it is blank, nobody has to. -/
theorem exists_authenticate_eq_ok {expected : Text} (h : s.apiKey = .proper (some expected)) :
    ∃ caller, s.authenticate (some expected) = .ok caller := by
  cases henabled : s.isAuthEnabled with
  | false => exact ⟨_, authenticate_of_disabled henabled _⟩
  | true =>
    have hne : expected ≠ [] := by
      rintro rfl
      rw [isAuthEnabled, h] at henabled
      cases henabled
    exact ⟨_, (authenticate_some henabled h hne).trans (if_pos rfl)⟩

end Settings

namespace Service

/-- The service with another key, or none, in its settings. -/
def withKey (s : Service) (key : Option Text) : Service :=
  { s with settings := { s.settings with apiKey := .proper key } }

variable (s : Service) (key : Option Text)

theorem obtainAuditor_withKey :
    (s.withKey key).obtainAuditor = s.obtainAuditor.map id (·.withKey key) := by
  have hauditor : (s.withKey key).auditor = s.auditor := rfl
  have hpolicy : (s.withKey key).settings.policy = s.settings.policy := rfl
  unfold obtainAuditor
  rw [hauditor, hpolicy]
  cases s.auditor with
  | some a => rfl
  | none => cases s.settings.policy <;> rfl

theorem analyze_withKey (config : Text) (password : Option Text) :
    (s.withKey key).analyze config password =
      (s.analyze config password).map id (·.withKey key) := by
  rw [analyze, obtainAuditor_withKey]
  rfl

theorem analyzePassword_withKey (password : Option Text) :
    (s.withKey key).analyzePassword password =
      (s.analyzePassword password).map id (·.withKey key) := by
  rw [analyzePassword, obtainAuditor_withKey]
  rfl

variable (engine : Engine)

theorem tryAnalyze_withKey (subject : Subject) (config : Text) (password : Option Text) :
    (s.withKey key).tryAnalyze engine subject config password =
      (s.tryAnalyze engine subject config password).map id (·.withKey key) := by
  cases engine with
  | working =>
    simp only [tryAnalyze, analyze_withKey]
    rfl
  | failing message => rfl

theorem handleText_withKey (r : TextRequest) :
    (s.withKey key).handleText engine r = (s.handleText engine r).map id (·.withKey key) := by
  have hgates : (s.withKey key).settings.textRefusal? r.configText =
    s.settings.textRefusal? r.configText := rfl
  unfold handleText
  rw [hgates]
  cases s.settings.textRefusal? r.configText with
  | some refusal => rfl
  | none =>
    dsimp only
    rw [tryAnalyze_withKey]
    rfl

theorem handleFile_withKey (file configFile : Option Upload) (password : Option Text) :
    (s.withKey key).handleFile engine file configFile password =
      (s.handleFile engine file configFile password).map id (·.withKey key) := by
  have hgates : (s.withKey key).settings.acceptFile (file.or configFile) =
    s.settings.acceptFile (file.or configFile) := rfl
  unfold handleFile
  rw [hgates]
  cases s.settings.acceptFile (file.or configFile) with
  | error refusal => rfl
  | ok f =>
    dsimp only
    rw [tryAnalyze_withKey]
    rfl

theorem handlePassword_withKey (r : PasswordRequest) :
    (s.withKey key).handlePassword engine r =
      (s.handlePassword engine r).map id (·.withKey key) := by
  cases engine with
  | working => exact analyzePassword_withKey s key r.password
  | failing message => rfl

end Service
end ConfigAudit
