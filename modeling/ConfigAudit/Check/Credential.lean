import ConfigAudit.Device.Reading
import ConfigAudit.Finding.Kind
import ConfigAudit.Policy

/-! Weak, short and plain-text credentials on the lines of a configuration. -/
namespace ConfigAudit.Check

/-- A mark between a keyword and an encrypted credential. -/
def isEncryptionType (word : Text) : Bool := [['0'], ['5'], ['7'], ['8'], ['9']].contains word

def isCredentialKeyword (word : Text) : Bool := word = "password" || word = "secret"

/-- The credential on a line, or the empty text: the second word, or else the word behind the
keyword, where a mark of encryption counts only if nothing follows it. -/
def credential (afterKeyword : Bool) (t : Text) : Text :=
  if afterKeyword then
    match t.words.dropWhile (!isCredentialKeyword ·) with
    | _ :: a :: b :: _ => if isEncryptionType a then b else a
    | [_, a] => a
    | _ => []
  else wordAt t 1

def namesCredential (t : Text) : Bool := t.startsWith "password " || t.includes "secret "

/-- A `!` marks a placeholder, which is not judged. -/
def credentialFindings (p : Policy) (l : Line) : List Finding :=
  let c := credential p.keywordCredentials l.text
  if namesCredential l.text && c ≠ [] && !c.includes "!" then
    (if p.isWeakPassword c p.weakPasswordCaseSensitive then [.weakCredential l.number c] else []) ++
      (if c.length < p.minPasswordLength then [.shortCredential l.number c.length] else [])
  else []

def enablePasswordFindings (l : Line) : List Finding :=
  if l.text.startsWith "enable password " then [.plainEnablePassword l.number] else []

/-- The lines that the line checks look at. -/
def judged (p : Policy) (lines : List Line) : List Line :=
  lines.filter fun l => !(p.skipCommentLines && l.isComment)

def weakPasswords (p : Policy) (lines : List Line) : List Finding :=
  (judged p lines).flatMap fun l => credentialFindings p l ++ enablePasswordFindings l

end ConfigAudit.Check
