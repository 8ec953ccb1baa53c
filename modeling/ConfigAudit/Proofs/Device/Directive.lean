import ConfigAudit.Device.Reading
import Mathlib.Tactic.Common

/-! Directives: which field of a block a line sets, and to what. A line sets one field at most, so
a field ends up as the last line that is about it says. -/
namespace ConfigAudit

def isAddressLine (t : Text) : Bool := t.startsWith "ip address"

def isStatusLine (t : Text) : Bool := t = "no shutdown" || t = "shutdown"

def statusOf (t : Text) : InterfaceStatus := if t = "no shutdown" then .active else .shutdown

def isAccessGroupLine (t : Text) : Bool := !isAddressLine t && t.includes "ip access-group"

def isPasswordLine (t : Text) : Bool := t = "password" || t.startsWith "password "

def isTransportLine (t : Text) : Bool := !isPasswordLine t && t.includes "transport input"

/-- The protocols that a line lists behind the first `transport input`. -/
def protocolsOf (t : Text) : List Text := ((Text.afterFirst "transport input" t).getD []).words

def isAccessClassLine (t : Text) : Bool :=
  !isPasswordLine t && !isTransportLine t && t.includes "access-class"

/-- The word at a position, which is empty behind the last one. -/
theorem wordAt_eq (t : Text) (i : Nat) : wordAt t i = (t.words[i]?).getD [] :=
  List.getD_eq_getElem?_getD

/-- A later line that a condition picks stands in front of an earlier one. -/
theorem getD_findRev?_cons {α : Type} (q : Text → Bool) (value : Text → α) (default : α)
    (t : Text) (r : List Text) :
    (((t :: r).findRev? q).map value).getD default =
      ((r.findRev? q).map value).getD (if q t then value t else default) := by
  rw [List.findRev?]
  cases r.findRev? q with
  | some last => rfl
  | none => cases q t <;> rfl

namespace Interface

private theorem apply_eq_ite (i : Interface) (t : Text) :
    i.apply t =
      if isAddressLine t then { i with ipAddress := some (wordAt t 2) }
      else if isStatusLine t then { i with status := statusOf t }
      else if isAccessGroupLine t then { i with acl := some (wordAt t 2) }
      else i := by
  unfold apply statusOf isAccessGroupLine isStatusLine isAddressLine
  by_cases haddress : t.startsWith "ip address" = true
  · rw [if_pos haddress, if_pos haddress]
  by_cases hno : t = "no shutdown"
  · subst hno
    rfl
  by_cases hdown : t = "shutdown"
  · subst hdown
    rfl
  simp only [haddress, hno, hdown, if_false, decide_false, Bool.or_self, Bool.not_false,
    Bool.true_and]
  rfl

/-- A line sets the field that it is about and no other. -/
theorem apply_eq (i : Interface) (t : Text) :
    i.apply t = { i with
      ipAddress := if isAddressLine t then some (wordAt t 2) else i.ipAddress
      status := if isStatusLine t then statusOf t else i.status
      acl := if isAccessGroupLine t then some (wordAt t 2) else i.acl } := by
  have hstatus (h : isStatusLine t) : isAddressLine t = false ∧ isAccessGroupLine t = false := by
    simp only [isStatusLine, Bool.or_eq_true, decide_eq_true_eq] at h
    rcases h with rfl | rfl <;> decide
  have hacl (h : isAccessGroupLine t) : isAddressLine t = false := by
    simp only [isAccessGroupLine, Bool.and_eq_true, Bool.not_eq_true'] at h
    exact h.1
  rw [apply_eq_ite]
  split_ifs <;> simp_all

theorem foldl_apply (i : Interface) (body : List Text) :
    body.foldl apply i = { i with
      ipAddress := ((body.findRev? isAddressLine).map fun t => some (wordAt t 2)).getD i.ipAddress
      status := ((body.findRev? isStatusLine).map statusOf).getD i.status
      acl := ((body.findRev? isAccessGroupLine).map fun t => some (wordAt t 2)).getD i.acl } := by
  induction body generalizing i with
  | nil => rfl
  | cons t r ih => simp only [List.foldl_cons, ih, apply_eq, getD_findRev?_cons]

end Interface

namespace VtyLine

private theorem apply_eq_ite (v : VtyLine) (t : Text) :
    v.apply t =
      if isPasswordLine t then { v with password := some (Text.strip (t.drop "password".length)) }
      else if isTransportLine t then { v with transport := protocolsOf t }
      else if isAccessClassLine t then { v with accessClass := some (wordAt t 1) }
      else v := by
  have hpassword : isPasswordLine t = true ↔ t = "password" ∨ t.startsWith "password " := by
    simp only [isPasswordLine, Bool.or_eq_true, decide_eq_true_eq]
  unfold apply isAccessClassLine isTransportLine protocolsOf Text.includes
  by_cases h : isPasswordLine t
  · rw [if_pos h, if_pos (hpassword.mp h)]
  rw [if_neg h, if_neg (mt hpassword.mpr h)]
  cases Text.afterFirst "transport input" t with
  | some protocols =>
    simp only [h, Bool.not_false, Option.isSome_some, Bool.and_self, if_true, Option.getD_some]
  | none =>
    simp only [h, Bool.not_false, Option.isSome_none, Bool.and_false, Bool.true_and,
      Bool.false_eq_true, if_false]

/-- A line sets the field that it is about and no other. -/
theorem apply_eq (v : VtyLine) (t : Text) :
    v.apply t = { v with
      password :=
        if isPasswordLine t then some (Text.strip (t.drop "password".length)) else v.password
      transport := if isTransportLine t then protocolsOf t else v.transport
      accessClass := if isAccessClassLine t then some (wordAt t 1) else v.accessClass } := by
  have htransport (h : isTransportLine t) : isPasswordLine t = false := by
    simp only [isTransportLine, Bool.and_eq_true, Bool.not_eq_true'] at h
    exact h.1
  have hclass (h : isAccessClassLine t) :
      isPasswordLine t = false ∧ isTransportLine t = false := by
    simp only [isAccessClassLine, Bool.and_eq_true, Bool.not_eq_true'] at h
    exact h.1
  rw [apply_eq_ite]
  split_ifs <;> simp_all

theorem foldl_apply (v : VtyLine) (body : List Text) :
    body.foldl apply v = { v with
      password := ((body.findRev? isPasswordLine).map fun t =>
        some (Text.strip (t.drop "password".length))).getD v.password
      transport := ((body.findRev? isTransportLine).map protocolsOf).getD v.transport
      accessClass :=
        ((body.findRev? isAccessClassLine).map fun t => some (wordAt t 1)).getD v.accessClass } := by
  induction body generalizing v with
  | nil => rfl
  | cons t r ih => simp only [List.foldl_cons, ih, apply_eq, getD_findRev?_cons]

end VtyLine

end ConfigAudit
