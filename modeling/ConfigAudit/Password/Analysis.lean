import ConfigAudit.Finding.Issue
import ConfigAudit.Policy

/-! Rating one password: its findings, its tier and its score. -/
namespace ConfigAudit

structure PasswordAnalysis where
  strength : Strength
  score : Int
  issues : List Issue := []
  deriving DecidableEq, Inhabited

/-- What there is to say against a password. -/
inductive PasswordFinding where
  | absent
  | dictionary (password : Text)
  | tooShort (length : Nat) (recommended : Int)
  | shouldBeLonger (length : Nat) (recommended : Int)
  | onlyDigits
  | onlyLetters
  | commonWord
  deriving DecidableEq, Inhabited

namespace PasswordFinding

def severity : PasswordFinding → Severity
  | absent | dictionary _ | tooShort _ _ => .critical
  | shouldBeLonger _ _ | onlyDigits | onlyLetters | commonWord => .high

def title : PasswordFinding → Text
  | absent => "No password provided"
  | dictionary password => "Very weak password detected: \"" ++ password ++ "\""
  | tooShort _ _ => "Password too short"
  | shouldBeLonger _ _ => "Password should be longer"
  | onlyDigits => "Password contains only numbers"
  | onlyLetters => "Password contains only letters"
  | commonWord => "Password contains common words"

def description : PasswordFinding → Text
  | absent => "Router authentication password is empty or not provided."
  | dictionary password =>
    "The password \"" ++ password ++
      "\" is a commonly used weak password that is easily guessable."
  | tooShort length _ =>
    "Password is only " ++ Text.ofNat length ++
      " characters. Short passwords are easily cracked."
  | shouldBeLonger length recommended =>
    "Password is " ++ Text.ofNat length ++ " characters. Consider using " ++
      Text.ofInt recommended ++ "+ characters for better security."
  | onlyDigits => "Password consists only of numbers, making it easier to crack."
  | onlyLetters => "Password consists only of letters, making it easier to crack."
  | commonWord =>
    "Password contains common dictionary words, making it vulnerable to dictionary attacks."

def recommendation : PasswordFinding → Text
  | absent => "Always use a strong password for router access."
  | dictionary _ =>
    ("Use a strong password with at least 12 characters, " : Text) ++
      "including uppercase, lowercase, numbers, and symbols."
  | tooShort _ recommended =>
    "Use passwords with at least " ++ Text.ofInt recommended ++
      "-16 characters for better security."
  | shouldBeLonger _ recommended =>
    "Use passwords with at least " ++ Text.ofInt recommended ++ "-16 characters."
  | onlyDigits | onlyLetters =>
    "Use a mix of uppercase, lowercase, numbers, and special characters."
  | commonWord =>
    "Avoid using common words. Use a combination of random words or a passphrase."

def issue (f : PasswordFinding) : Issue where
  severity := f.severity
  category := "Weak Authentication"
  title := f.title
  description := f.description
  location := "Router Authentication"
  recommendation := f.recommendation
  reference := "CWE-521"

end PasswordFinding

namespace Password

/-- An ASCII capital, an ASCII small letter, an ASCII digit and something else are all there. -/
def isMixed (t : Text) : Bool :=
  t.any Char.isUpper && t.any Char.isLower && t.any Char.isDigit &&
    t.any fun c => !(c.isAlpha || c.isDigit)

def hasCommonWord (p : Policy) (t : Text) : Bool :=
  p.commonWords.any fun word => (Text.lowercase t).includes (Text.lowercase word)

def lengthFindings (p : Policy) (t : Text) : List PasswordFinding :=
  if t.length < p.minPasswordLength then [.tooShort t.length p.recommendedPasswordLength]
  else if t.length < p.recommendedPasswordLength then
    [.shouldBeLonger t.length p.recommendedPasswordLength]
  else []

/-- The findings on a password that is neither empty nor in the dictionary. -/
def findings (p : Policy) (t : Text) : List PasswordFinding :=
  lengthFindings p t ++ (if t.all Char.isDigit then [.onlyDigits] else []) ++
    (if t.all Char.isAlpha then [.onlyLetters] else []) ++
    (if hasCommonWord p t then [.commonWord] else [])

/-- The tier that the severities of the findings leave. Only a long password can be moderate. -/
def grade (p : Policy) (t : Text) (severities : List Severity) : Strength :=
  if severities.contains .critical then .critical
  else if severities.contains .high then .weak
  else if p.recommendedPasswordLength ≤ t.length then if isMixed t then .strong else .moderate
  else .strong

/-- The score of a tier whose password was looked at in full. -/
def gradeScore : Strength → Int
  | .critical => 20
  | .weak => 40
  | .moderate => 70
  | .strong => 100

/-- An absent password is judged like the empty one. The dictionary ignores case. -/
def analyze (p : Policy) (password : Option Text) : PasswordAnalysis :=
  let t := password.getD []
  if t = [] then ⟨.critical, 0, [PasswordFinding.absent.issue]⟩
  else if p.isWeakPassword t false then ⟨.critical, 10, [(PasswordFinding.dictionary t).issue]⟩
  else
    let found := findings p t
    let strength := grade p t (found.map (·.severity))
    ⟨strength, gradeScore strength, found.map (·.issue)⟩

end Password
end ConfigAudit
