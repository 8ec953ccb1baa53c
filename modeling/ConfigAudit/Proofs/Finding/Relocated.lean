import ConfigAudit.Proofs.Device.Position
import ConfigAudit.Proofs.Finding.Renumbered

/-! Findings on lines of other numbers. Of an issue, a new number changes nothing but the location
and the text that repeats it. -/
namespace ConfigAudit

/-- An issue that reads like another one, on a line whose number is mapped. -/
structure Issue.Relocated (g : Int → Int) (i j : Issue) : Prop where
  severity : j.severity = i.severity
  category : j.category = i.category
  title : j.title = i.title
  recommendation : j.recommendation = i.recommendation
  reference : j.reference = i.reference
  located : ∀ n, i.location = Line.locate n → j.location = Line.locate (g n)
  elsewhere : (∀ n, i.location ≠ Line.locate n) → j.location = i.location

theorem Issue.relocated_self (g : Int → Int) {i : Issue} (h : ∀ n, i.location ≠ Line.locate n) :
    i.Relocated g i :=
  ⟨rfl, rfl, rfl, rfl, rfl, fun n hn => absurd hn (h n), fun _ => rfl⟩

theorem Line.ne_locate {t : Text} {c : Char} (ht : t.head? = some c) (hc : c ≠ 'L') (n : Int) :
    t ≠ locate n := by
  rintro rfl
  exact hc (Option.some.inj ht).symm

namespace Finding

/-- The same finding on a line of another number. -/
def mapLine (g : Int → Int) : Finding → Finding
  | weakCredential n credential => weakCredential (g n) credential
  | shortCredential n length => shortCredential (g n) length
  | plainEnablePassword n => plainEnablePassword (g n)
  | telnet n => telnet (g n)
  | httpServer n => httpServer (g n)
  | openVtyLine n range => openVtyLine (g n) range
  | openInterface n name => openInterface (g n) name
  | unusedInterface n name => unusedInterface (g n) name
  | absent directive => absent directive

theorem moveBy_eq_mapLine (distance : Int) : moveBy distance = mapLine (· + distance) := by
  funext f
  cases f <;> rfl

theorem absent_location_ne (directive : Hardening) (n : Int) :
    (absent directive).issue.location ≠ Line.locate n := by
  cases directive <;> exact Line.ne_locate (Text.head?_ofList ..) (by decide) n

theorem relocated_mapLine (g : Int → Int) (f : Finding) :
    f.issue.Relocated g (f.mapLine g).issue := by
  have hlocate {n m : Int} (h : Line.locate n = Line.locate m) :
      Line.locate (g n) = Line.locate (g m) := by
    rw [Line.locate_injective h]
  cases f with
  | absent directive => exact Issue.relocated_self g (absent_location_ne directive)
  | weakCredential n _ | shortCredential n _ | plainEnablePassword n | telnet n | httpServer n
  | openVtyLine n _ | openInterface n _ | unusedInterface n _ =>
    exact ⟨rfl, rfl, rfl, rfl, rfl, fun _ hm => hlocate hm, fun h => absurd rfl (h n)⟩

end Finding
end ConfigAudit
