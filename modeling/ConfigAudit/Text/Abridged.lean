import ConfigAudit.Text.Utf8

/-! Long texts with their middle left out. -/
namespace ConfigAudit.Text

/-- The longest front of a text that takes at most so many bytes in UTF-8. -/
def takeBytes (limit : Nat) : Text → Text
  | [] => []
  | c :: r =>
    let size := (Utf8.encodeChar c).length
    if size ≤ limit then c :: takeBytes (limit - size) r else []

/-- The longest back of a text that takes at most so many bytes in UTF-8. -/
def takeLastBytes (limit : Nat) (t : Text) : Text := (takeBytes limit t.reverse).reverse

/-- A text of more than 50 bytes keeps its first 25 and its last 24, as far as characters are whole
there. -/
def abridged (t : Text) : Text :=
  if (Utf8.encode t).length ≤ 50 then t else takeBytes 25 t ++ "..." ++ takeLastBytes 24 t

end ConfigAudit.Text
