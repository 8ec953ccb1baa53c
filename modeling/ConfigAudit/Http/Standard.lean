import ConfigAudit.Http.Framework

/-! A framework to run requests with. -/
namespace ConfigAudit

namespace Json

mutual

/-- Whether a value is a scalar of some kind or holds one. -/
def holds (p : Json → Bool) : Json → Bool
  | arr items => itemsHold p items
  | obj members => membersHold p members
  | j => p j

def itemsHold (p : Json → Bool) : List Json → Bool
  | [] => false
  | j :: r => holds p j || itemsHold p r

def membersHold (p : Json → Bool) : List (Text × Json) → Bool
  | [] => false
  | (_, j) :: r => holds p j || membersHold p r

end

def isUnbounded : Json → Bool
  | real t =>
    match Binary64.ofLiteral t with
    | .finite _ _ _ => false
    | _ => true
  | _ => false

def isBroken : Json → Bool
  | broken _ => true
  | _ => false

section Texts

variable {p : Json → Bool} (hp : ∀ t, p (.str t) = false)
include hp

theorem holds_str (t : Text) : (str t).holds p = false := by
  rw [holds, hp] <;> nofun

theorem holds_texts (l : List Text) : (texts l).holds p = false := by
  rw [texts, ofList, holds]
  induction l with
  | nil => rw [List.map_nil, itemsHold]
  | cons t r ih => rw [List.map_cons, itemsHold, holds_str hp, ih, Bool.or_false]

theorem holds_obj_texts {members : List (Text × Json)}
    (h : ∀ m ∈ members, (∃ t, m.2 = .str t) ∨ ∃ l, m.2 = .texts l) :
    (obj members).holds p = false := by
  rw [holds]
  induction members with
  | nil => rw [membersHold]
  | cons m r ih =>
    obtain ⟨hvalue, hothers⟩ := List.forall_mem_cons.mp h
    obtain ⟨name, j⟩ := m
    have hj : j.holds p = false := by
      rcases hvalue with ⟨t, rfl⟩ | ⟨l, rfl⟩
      · exact holds_str hp t
      · exact holds_texts hp l
    rw [membersHold, hj, ih hothers, Bool.or_false]

end Texts

end Json

namespace Http

/-- What is sent along with a fault of a value: what stands at its place, or the value itself if
nothing does. -/
def shownValue (j : Json) (f : Fault) : Json :=
  match f.path, j with
  | [.key name], .obj members => (Json.lookup name members).getD j
  | _, _ => j

namespace Standard

/-- Numbers that are not finite have no JSON, and a surrogate that stands alone has no UTF-8. -/
def unsent? (j : Json) : Option Failure :=
  if j.holds Json.isUnbounded then
    some (.framework "ValueError" "Out of range float values are not JSON compliant")
  else if j.holds Json.isBroken then some (.framework "UnicodeEncodeError" [])
  else none

def readJson (bytes : List UInt8) : Except JsonFault Json :=
  if Utf8.isWellFormed bytes then
    match Json.read (Utf8.decodeLossy bytes) with
    | .ok j => .ok j
    | .error .malformed => .error (.malformed 0)
    | .error _ => .error .unreadable
  else .error .unreadable

/-- Of a fault of the body as a whole, the body is shown. If it was not read as JSON, that takes a
text in UTF-8. -/
def unreported? (mediaType : Text) (body : Body) (faults : List Fault) : Option Failure :=
  let shownWhole := faults.any (·.path = [])
  let undecodable (isText : Bool) : Option Failure :=
    if shownWhole && !isText then some (.framework "UnicodeDecodeError" []) else none
  match body with
  | .json j => if isJsonType mediaType then unsent? (.arr (faults.map (shownValue j))) else none
  | .multipart parts => undecodable (parts.all (·.isText))
  | .raw bytes =>
    match readJson bytes with
    | .ok j =>
      if isJsonType mediaType then unsent? (.arr (faults.map (shownValue j))) else none
    | .error _ => undecodable (Utf8.isWellFormed bytes)
  | _ => none

end Standard

/-- The framework as far as the requests show it that are sent here, whose bodies are never raw. The
pages of the documentation are left out, and so are the place where malformed JSON breaks off and
the texts of failures to encode or decode. -/
def Framework.standard : Framework where
  page _ := .plain []
  presumesJson := false
  readJson := Standard.readJson
  readForm _ _ := .ok []
  -- This is what comes of a field for files in which none was chosen.
  omits u := u.filename = some [] && u.content = []
  unsent? := Standard.unsent?
  unreported? := Standard.unreported?
  sends_texts members h := by
    have hnone {p : Json → Bool} (hp : ∀ t, p (.str t) = false) :
        Json.holds p (.obj members) = false :=
      Json.holds_obj_texts hp h
    rw [Standard.unsent?, hnone fun _ => rfl, hnone fun _ => rfl]
    rfl

end Http
end ConfigAudit
