import ConfigAudit.Text.Lowercase

/-! The policy that an audit applies: word lists, length limits, switches and penalty tables. -/
namespace ConfigAudit

/-- The tier of a password, weakest first. -/
inductive Strength where
  | critical
  | weak
  | moderate
  | strong
  deriving DecidableEq, Inhabited

/-- The score to start from, and what one finding of each severity costs. -/
structure PenaltyWeights where
  base : Int
  critical : Int
  high : Int
  medium : Int
  low : Int
  deriving DecidableEq, Inhabited

/-- The weights of the tiers that have some of their own. -/
structure StrengthWeights where
  critical : Option PenaltyWeights := none
  weak : Option PenaltyWeights := none
  moderate : Option PenaltyWeights := none
  strong : Option PenaltyWeights := none
  deriving DecidableEq, Inhabited

namespace StrengthWeights

def get? (w : StrengthWeights) : Strength → Option PenaltyWeights
  | .critical => w.critical
  | .weak => w.weak
  | .moderate => w.moderate
  | .strong => w.strong

def set (w : StrengthWeights) (s : Strength) (p : PenaltyWeights) : StrengthWeights :=
  match s with
  | .critical => { w with critical := some p }
  | .weak => { w with weak := some p }
  | .moderate => { w with moderate := some p }
  | .strong => { w with strong := some p }

/-- A weaker password lowers the starting score and makes every finding cheaper. -/
def standard : StrengthWeights where
  critical := some ⟨20, 5, 3, 2, 1⟩
  weak := some ⟨40, 8, 5, 3, 1⟩
  moderate := some ⟨70, 12, 8, 4, 2⟩
  strong := some ⟨100, 15, 10, 5, 2⟩

end StrengthWeights

def PenaltyWeights.standard : PenaltyWeights := ⟨100, 15, 10, 5, 2⟩

/-- Default and vendor-shipped credentials. -/
def standardWeakPasswords : List Text :=
  ["cisco", "admin", "password", "123456", "letmein", "welcome", "default", "secret", "changeme",
    "12345", "1234", "12345678", "qwerty", "abc123", "password123", "admin123", "root", "user",
    "pass", "123"]

/-- Words that make a longer password guessable. -/
def standardCommonWords : List Text := ["password", "admin", "root", "user", "login", "welcome"]

structure Policy where
  weakPasswords : List Text := standardWeakPasswords
  commonWords : List Text := standardCommonWords
  minPasswordLength : Int := 8
  recommendedPasswordLength : Int := 12
  /-- Whether the credentials of a configuration have to match a weak password in case too. -/
  weakPasswordCaseSensitive : Bool := false
  /-- Whether an absent banner, logging or password encryption is a finding. -/
  extendedBestPractices : Bool := true
  /-- Whether a credential is read behind its keyword instead of as the second word. -/
  keywordCredentials : Bool := false
  /-- Whether the line checks pass over comment lines. -/
  skipCommentLines : Bool := false
  defaultWeights : PenaltyWeights := .standard
  strengthWeights : StrengthWeights := .standard
  deriving DecidableEq, Inhabited

namespace Policy

def isWeakPassword (p : Policy) (candidate : Text) (caseSensitive : Bool) : Bool :=
  if caseSensitive then p.weakPasswords.contains candidate
  else p.weakPasswords.any fun entry => Text.lowercase candidate = Text.lowercase entry

/-- The weights of a tier, or of an audit without a password. -/
def weightsFor (p : Policy) : Option Strength → PenaltyWeights
  | none => p.defaultWeights
  | some s => (p.strengthWeights.get? s).getD p.defaultWeights

end Policy
end ConfigAudit
