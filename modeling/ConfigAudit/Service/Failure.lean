import ConfigAudit.Json.Misfit
import ConfigAudit.Text.Quoted

/-! How an analysis that has begun can fail, and what else can go wrong past every gate. -/
namespace ConfigAudit

inductive Failure where
  /-- The engine failed with a message. -/
  | engine (message : Text)
  /-- A size was to be compared with a limit that is no number. -/
  | incomparable (relation : Char) (kind : Text)
  /-- The settings give no policy. -/
  | policy (misfits : List Misfit)
  /-- A string in which a surrogate stands alone has no encoding. -/
  | unencodable (codePoints : List Nat)
  /-- A failure of the framework, by its name and with its message. -/
  | framework (name message : Text)
  deriving DecidableEq, Inhabited

namespace Failure

def label : Failure → Text
  | engine _ => "RuntimeError"
  | incomparable _ _ => "TypeError"
  | policy _ => "ValidationError"
  | unencodable _ => "UnicodeEncodeError"
  | framework name _ => name

def message : Failure → Text
  | engine message => message
  | incomparable relation kind =>
    "'" ++ [relation] ++ "' not supported between instances of 'int' and '" ++ kind ++ "'"
  | policy misfits =>
    let noun : Text := if misfits.length = 1 then " validation error" else " validation errors"
    Text.ofNat misfits.length ++ noun ++ " for AnalyzerConfig\n" ++
      Text.join "\n" (misfits.map (·.report))
  | unencodable codePoints =>
    let isLone (n : Nat) : Bool := !n.isValidChar
    Text.unencodable "utf-8" "surrogates not allowed" (codePoints.findIdx isLone)
      ((codePoints.dropWhile (!isLone ·)).takeWhile isLone)
  | framework _ message => message

end Failure
end ConfigAudit
