import ConfigAudit.Proofs.Device.Directive
import ConfigAudit.Proofs.Device.Inventory
import ConfigAudit.Proofs.Device.Line

/-! Blocks as they stand in a configuration: a header, and the lines behind it up to the next one
that ends a block. The main statement is that reading in one pass recovers exactly these blocks. -/
namespace ConfigAudit

/-- Whether an open block ends in front of a line. -/
def endsBlock (t : Text) : Bool :=
  t = "!" || t.startsWith "interface " || t.startsWith "line vty"

/-- The lines that belong to a block, out of all that follow its header. -/
def blockBody (lines : List Text) : List Text := lines.takeWhile (!endsBlock ·)

def isAclLine (t : Text) : Bool := t.startsWith "access-list " || t.startsWith "ip access-list"

structure Block where
  /-- The number of the header line. -/
  lineNumber : Nat
  /-- What the header says behind its keywords. -/
  heading : Text
  body : List Text

namespace Block

/-- The block of a line that begins with some keywords, from its number and what follows it. -/
def headed? (keywords : Text) (n : Nat) (t : Text) (rest : List Text) : Option Block :=
  if t.startsWith keywords then
    some ⟨n, Text.strip (t.drop keywords.length), blockBody rest⟩
  else none

/-- The blocks under some keywords, in the order of their headers. The first line has number one,
so dropping as many lines as a header's number says leaves what follows it. -/
def all (keywords : Text) (lines : List Text) : List Block :=
  (lines.zipIdx 1).filterMap fun (t, n) => headed? keywords n t (lines.drop n)

/-- The last line of the body that satisfies a condition: the one that counts. -/
def last? (b : Block) (q : Text → Bool) : Option Text := b.body.findRev? q

/-- What an interface block says: in each field the last line that is about it, where an address and
an access list are the third word of their line, empty if there is none. -/
def toInterface (b : Block) : Interface where
  name := b.heading
  ipAddress := (b.last? isAddressLine).map fun t => (t.words[2]?).getD []
  status := ((b.last? isStatusLine).map statusOf).getD .unknown
  acl := (b.last? isAccessGroupLine).map fun t => (t.words[2]?).getD []
  lineNumber := b.lineNumber

/-- What a VTY block says. Its access class is the second word of the last line that sets it. -/
def toVtyLine (b : Block) : VtyLine where
  range := b.heading
  password := (b.last? isPasswordLine).map fun t => Text.strip (t.drop "password".length)
  transport := ((b.last? isTransportLine).map protocolsOf).getD []
  accessClass := (b.last? isAccessClassLine).map fun t => (t.words[1]?).getD []
  lineNumber := b.lineNumber

/-- The blocks of lines that are numbered from a given number on. -/
def allFrom (keywords : Text) : Nat → List Text → List Block
  | _, [] => []
  | n, t :: r => (headed? keywords n t r).toList ++ allFrom keywords (n + 1) r

/-- The lines passed so far are what the number of a header counts. -/
private theorem filterMap_headed? (keywords : Text) (passed lines : List Text) :
    (lines.zipIdx (passed.length + 1)).filterMap
        (fun (t, n) => headed? keywords n t ((passed ++ lines).drop n)) =
      allFrom keywords (passed.length + 1) lines := by
  induction lines generalizing passed with
  | nil => rfl
  | cons t r ih =>
    have hdrop : (passed ++ t :: r).drop (passed.length + 1) = r := by
      simp [List.drop_append]
    have hr := ih (passed ++ [t])
    simp only [List.append_assoc, List.singleton_append, List.length_append,
      List.length_singleton] at hr
    simp only [List.zipIdx_cons, List.filterMap_cons, allFrom, hr, hdrop]
    cases headed? keywords (passed.length + 1) t r <;> rfl

theorem all_eq_allFrom (keywords : Text) (lines : List Text) :
    all keywords lines = allFrom keywords 1 lines := filterMap_headed? keywords [] lines

end Block

theorem blockBody_cons_of_endsBlock {t : Text} (h : endsBlock t = true) (r : List Text) :
    blockBody (t :: r) = [] := by
  simp [blockBody, h]

theorem blockBody_cons {t : Text} (h : endsBlock t = false) (r : List Text) :
    blockBody (t :: r) = t :: blockBody r := by
  simp [blockBody, h]

private theorem getD_map_some {α β : Type} (f : α → β) (o : Option α) :
    (o.map fun a => some (f a)).getD none = o.map f := by
  cases o <;> rfl

theorem Interface.foldl_apply_eq_toInterface (n : Nat) (name : Text) (body : List Text) :
    body.foldl Interface.apply { name := name, lineNumber := n } =
      (⟨n, name, body⟩ : Block).toInterface := by
  simp only [Interface.foldl_apply, getD_map_some, wordAt_eq, Block.toInterface, Block.last?]

theorem VtyLine.foldl_apply_eq_toVtyLine (n : Nat) (range : Text) (body : List Text) :
    body.foldl VtyLine.apply { range := range, lineNumber := n } =
      (⟨n, range, body⟩ : Block).toVtyLine := by
  simp only [VtyLine.foldl_apply, getD_map_some, wordAt_eq, Block.toVtyLine, Block.last?]

namespace OpenBlock

theorem foldl_apply_interface (i : Interface) (body : List Text) :
    body.foldl (fun b t => b.apply t) (interface i) = interface (body.foldl Interface.apply i) := by
  induction body generalizing i with
  | nil => rfl
  | cons t r ih => exact ih (i.apply t)

theorem foldl_apply_vty (v : VtyLine) (body : List Text) :
    body.foldl (fun b t => b.apply t) (vty v) = vty (body.foldl VtyLine.apply v) := by
  induction body generalizing v with
  | nil => rfl
  | cons t r ih => exact ih (v.apply t)

/-- A closing block and an access-list entry add to different parts of the inventory. -/
theorem close_append_aclEntry (b : OpenBlock) (t : Text) (i : Inventory) :
    b.close ++ (Inventory.aclEntry t ++ i) = Inventory.aclEntry t ++ (b.close ++ i) := by
  unfold Inventory.aclEntry
  cases b <;> split_ifs <;> simp [close, Inventory.append_def]

theorem endsBlock_eq_false_iff (l : Line) :
    endsBlock l.text = false ↔ l.text ≠ "!" ∧ ofHeader? l = none := by
  unfold endsBlock ofHeader?
  split_ifs <;> simp_all

/-- What a block becomes when it closes behind its body. -/
def closeAfter (b : OpenBlock) (body : List Text) : Inventory :=
  (body.foldl (fun b t => b.apply t) b).close

theorem closeAfter_interface (i : Interface) (body : List Text) :
    (interface i).closeAfter body = { interfaces := [body.foldl Interface.apply i] } := by
  rw [closeAfter, foldl_apply_interface, close]

theorem closeAfter_vty (v : VtyLine) (body : List Text) :
    (vty v).closeAfter body = { vtyLines := [body.foldl VtyLine.apply v] } := by
  rw [closeAfter, foldl_apply_vty, close]

end OpenBlock

namespace Inventory

/-- The lines up to the end of an open block go into it, and the reading goes on as if no block
had been open. -/
theorem readFrom_eq (b : OpenBlock) (lines : List Line) :
    readFrom b lines =
      b.closeAfter (blockBody (lines.map (·.text))) ++ readFrom .outside lines := by
  induction lines generalizing b with
  | nil => simp [readFrom, OpenBlock.closeAfter, blockBody, OpenBlock.close]
  | cons l r ih =>
    rw [List.map_cons]
    cases hends : endsBlock l.text with
    | true =>
      rw [blockBody_cons_of_endsBlock hends, readFrom, readFrom]
      by_cases hend : l.text = "!"
      · rw [if_pos hend, if_pos hend]
        rfl
      rw [if_neg hend, if_neg hend]
      cases hheader : OpenBlock.ofHeader? l with
      | some opened => rfl
      | none => exact absurd ((OpenBlock.endsBlock_eq_false_iff l).mpr ⟨hend, hheader⟩) (by simp [hends])
    | false =>
      obtain ⟨hend, hheader⟩ := (OpenBlock.endsBlock_eq_false_iff l).mp hends
      rw [blockBody_cons hends, readFrom, readFrom, if_neg hend, if_neg hend, hheader]
      simp only [ih (b.apply l.text)]
      exact (OpenBlock.close_append_aclEntry _ _ _).symm

/-- Outside of blocks a line adds the block that it opens and the access-list entry that it is. -/
theorem readFrom_outside_cons (l : Line) (r : List Line) :
    readFrom .outside (l :: r) =
      (OpenBlock.ofHeader? l).elim {} (·.closeAfter (blockBody (r.map (·.text)))) ++
        (aclEntry l.text ++ readFrom .outside r) := by
  rw [readFrom]
  by_cases hend : l.text = "!"
  · have hheader : OpenBlock.ofHeader? l = none := by
      rw [OpenBlock.ofHeader?, hend]
      rfl
    rw [if_pos hend, hheader, hend]
    rfl
  rw [if_neg hend]
  cases OpenBlock.ofHeader? l with
  | none => rfl
  | some opened =>
    simp only [readFrom_eq opened r, OpenBlock.closeAfter]
    exact (OpenBlock.close_append_aclEntry _ _ _).symm

/-- The block that a header opens, once its body is read. -/
theorem opened_eq (n : Nat) (t : Text) (r : List Text) :
    (OpenBlock.ofHeader? ⟨n, t⟩).elim ({} : Inventory) (·.closeAfter (blockBody r)) = {
      interfaces := (Block.headed? "interface " n t r).toList.map Block.toInterface
      vtyLines := (Block.headed? "line vty" n t r).toList.map Block.toVtyLine } := by
  have hexclusive (h : t.startsWith "interface ") : t.startsWith "line vty" = false := by
    obtain ⟨rest, rfl⟩ := List.isPrefixOf_iff_prefix.mp h
    rfl
  unfold OpenBlock.ofHeader? Block.headed?
  by_cases hinterface : t.startsWith "interface " = true
  · rw [if_pos hinterface, if_pos hinterface, hexclusive hinterface, Option.elim_some,
      OpenBlock.closeAfter_interface, Interface.foldl_apply_eq_toInterface]
    rfl
  rw [if_neg hinterface, if_neg hinterface]
  by_cases hvty : t.startsWith "line vty" = true
  · rw [if_pos hvty, if_pos hvty, Option.elim_some, OpenBlock.closeAfter_vty,
      VtyLine.foldl_apply_eq_toVtyLine]
    rfl
  rw [if_neg hvty, if_neg hvty]
  rfl

theorem aclEntry_eq (t : Text) : aclEntry t = { acls := [t].filter isAclLine } := by
  unfold aclEntry isAclLine
  rw [List.filter_cons]
  split_ifs <;> rfl

theorem readFrom_numberFrom (n : Nat) (lines : List Text) :
    readFrom .outside (Line.numberFrom n lines) = {
      interfaces := (Block.allFrom "interface " n lines).map Block.toInterface
      vtyLines := (Block.allFrom "line vty" n lines).map Block.toVtyLine
      acls := lines.filter isAclLine } := by
  induction lines generalizing n with
  | nil => rfl
  | cons t r ih =>
    have hr := ih (n + 1)
    rw [Int.natCast_add, Int.natCast_one] at hr
    have hacls : (t :: r).filter isAclLine = [t].filter isAclLine ++ r.filter isAclLine :=
      List.filter_append [t] r
    rw [Line.numberFrom_cons, readFrom_outside_cons, Line.numberFrom_map_text, hr, opened_eq,
      aclEntry_eq, hacls, Block.allFrom, Block.allFrom, List.map_append, List.map_append]
    rfl

theorem ofText_eq_allFrom (t : Text) :
    ofText t = {
      interfaces := (Block.allFrom "interface " 1 t.lines).map Block.toInterface
      vtyLines := (Block.allFrom "line vty" 1 t.lines).map Block.toVtyLine
      acls := t.lines.filter isAclLine } := readFrom_numberFrom 1 t.lines

/-- Reading in one pass finds the interface blocks, the VTY blocks and the access-list entries of
a configuration, each in the order in which they stand there. -/
theorem ofText_eq_blocks (t : Text) :
    ofText t = {
      interfaces := (Block.all "interface " t.lines).map Block.toInterface
      vtyLines := (Block.all "line vty" t.lines).map Block.toVtyLine
      acls := t.lines.filter isAclLine } := by
  rw [Block.all_eq_allFrom, Block.all_eq_allFrom, ofText_eq_allFrom]

end Inventory
end ConfigAudit
