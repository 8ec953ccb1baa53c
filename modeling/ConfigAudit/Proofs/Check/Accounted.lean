import ConfigAudit.Proofs.Check.Distinct

/-! Every block is accounted for once. An interface is reported as unused, or as open, or has an
access list, and a VTY line is reported as open or has an access class. Blocks have header lines of
their own, so the issues on the line of a header are those on its block. -/
namespace ConfigAudit

/-- The issues on the line of a number. -/
def issuesAt (n : Int) (issues : List Issue) : List Issue :=
  issues.filter (·.location = Line.locate n)

/-- An interface is idle, and reported as that alone; or active, and reported as exposed alone; or
active behind an access list, and not reported. -/
inductive Interface.AccountedFor (openBlocks unused : List Issue) (i : Interface) : Prop
  | idle (status : i.status ≠ .active)
      (reported : issuesAt i.lineNumber unused =
        [(Finding.unusedInterface i.lineNumber i.name).issue])
      (nothingElse : issuesAt i.lineNumber openBlocks = [])
  | exposed (status : i.status = .active) (acl : isNamed i.acl = false)
      (reported : issuesAt i.lineNumber openBlocks =
        [(Finding.openInterface i.lineNumber i.name).issue])
      (nothingElse : issuesAt i.lineNumber unused = [])
  | guarded (status : i.status = .active) (acl : isNamed i.acl = true)
      (nothing : issuesAt i.lineNumber openBlocks = [])
      (nothingElse : issuesAt i.lineNumber unused = [])

/-- A VTY line is reported as exposed, or has an access class and is not reported. -/
inductive VtyLine.AccountedFor (openBlocks : List Issue) (v : VtyLine) : Prop
  | exposed (accessClass : isNamed v.accessClass = false)
      (reported : issuesAt v.lineNumber openBlocks =
        [(Finding.openVtyLine v.lineNumber v.range).issue])
  | guarded (accessClass : isNamed v.accessClass = true)
      (nothing : issuesAt v.lineNumber openBlocks = [])

theorem issuesAt_append (n : Int) (l m : List Issue) :
    issuesAt n (l ++ m) = issuesAt n l ++ issuesAt n m := List.filter_append l m

namespace Inventory

variable {t : Text}

theorem pairwise_interfaces (t : Text) :
    (ofText t).interfaces.Pairwise (·.lineNumber < ·.lineNumber) := by
  rw [ofText_eq_allFrom, List.pairwise_map]
  exact (Block.pairwise_lineNumber_allFrom _ _ _).imp Int.ofNat_lt.mpr

theorem pairwise_vtyLines (t : Text) :
    (ofText t).vtyLines.Pairwise (·.lineNumber < ·.lineNumber) := by
  rw [ofText_eq_allFrom, List.pairwise_map]
  exact (Block.pairwise_lineNumber_allFrom _ _ _).imp Int.ofNat_lt.mpr

/-- No line is the header of an interface and of a VTY line. -/
theorem lineNumber_ne {i : Interface} (hi : i ∈ (ofText t).interfaces) {v : VtyLine}
    (hv : v ∈ (ofText t).vtyLines) : v.lineNumber ≠ i.lineNumber := by
  obtain ⟨b, hb, rfl⟩ := mem_interfaces_iff.mp hi
  obtain ⟨c, hc, rfl⟩ := mem_vtyLines_iff.mp hv
  obtain ⟨k, line, hline, hheaded⟩ := Block.mem_all_iff.mp hb
  obtain ⟨m, other, hother, hheaded'⟩ := Block.mem_all_iff.mp hc
  obtain ⟨hinterface, rfl⟩ := Block.headed?_eq_some_iff.mp hheaded
  obtain ⟨hvty, rfl⟩ := Block.headed?_eq_some_iff.mp hheaded'
  intro heq
  obtain rfl : m = k := by
    have hnumber : ((m + 1 : Nat) : Int) = (k + 1 : Nat) := heq
    omega
  obtain rfl := Option.some.inj (hline.symm.trans hother)
  obtain ⟨rest, rfl⟩ := List.isPrefixOf_iff_prefix.mp hinterface
  exact Bool.false_ne_true hvty

end Inventory

namespace Check

section Blocks

variable {α : Type} {blocks : List α}

theorem filter_number_eq_singleton {number : α → Int}
    (hordered : blocks.Pairwise (number · < number ·)) {b : α} (hb : b ∈ blocks) :
    blocks.filter (number · = number b) = [b] := by
  induction blocks with
  | nil => cases hb
  | cons a r ih =>
    obtain ⟨hfirst, hr⟩ := List.pairwise_cons.mp hordered
    rcases List.mem_cons.mp hb with rfl | hb
    · have hnone : r.filter (number · = number b) = [] :=
        List.filter_eq_nil_iff.mpr fun x hx => by simpa using (Int.ne_of_lt (hfirst x hx)).symm
      rw [List.filter_cons_of_pos (by simp), hnone]
    · rw [List.filter_cons_of_neg (by simpa using Int.ne_of_lt (hfirst b hb)), ih hr hb]

variable (number : α → Int) (finding : α → Finding)
  (hfound : ∀ b, (finding b).line? = some (number b)) (q : α → Bool)
include hfound

/-- What a check of some blocks reports on a line, it reports on the blocks that begin there. -/
theorem issuesAt_blocks (n : Int) :
    issuesAt n (((blocks.filter q).map finding).map Finding.issue) =
      ((blocks.filter (number · = n)).filter q).map fun b => (finding b).issue := by
  have hlocated (b : α) : (finding b).issue.location = Line.locate n ↔ number b = n := by
    rw [Finding.location_eq_locate_iff, hfound, Option.some.injEq]
  rw [issuesAt, List.map_map, List.filter_map, List.filter_comm]
  simp only [Function.comp_def, hlocated]

theorem issuesAt_block (hordered : blocks.Pairwise (number · < number ·)) {b : α}
    (hb : b ∈ blocks) :
    issuesAt (number b) (((blocks.filter q).map finding).map Finding.issue) =
      if q b then [(finding b).issue] else [] := by
  rw [issuesAt_blocks number finding hfound, filter_number_eq_singleton hordered hb,
    List.filter_singleton]
  cases q b <;> rfl

theorem issuesAt_elsewhere {n : Int} (hn : ∀ b ∈ blocks, number b ≠ n) :
    issuesAt n (((blocks.filter q).map finding).map Finding.issue) = [] := by
  have hnone : blocks.filter (number · = n) = [] :=
    List.filter_eq_nil_iff.mpr fun b hb => by simpa using hn b hb
  rw [issuesAt_blocks number finding hfound, hnone]
  rfl

end Blocks

section Headers

variable {t : Text}

theorem issuesAt_unusedInterfaces {i : Interface} (hi : i ∈ (Inventory.ofText t).interfaces) :
    issuesAt i.lineNumber ((unusedInterfaces (.ofText t)).map Finding.issue) =
      if i.status ≠ .active then [(Finding.unusedInterface i.lineNumber i.name).issue] else [] := by
  have hreported := issuesAt_block Interface.lineNumber
    (fun f => .unusedInterface f.lineNumber f.name) (fun _ => rfl) (·.status ≠ .active)
    (Inventory.pairwise_interfaces t) hi
  rw [unusedInterfaces]
  simpa only [decide_eq_true_eq] using hreported

theorem issuesAt_missingAccessControl_interface {i : Interface}
    (hi : i ∈ (Inventory.ofText t).interfaces) :
    issuesAt i.lineNumber ((missingAccessControl (.ofText t)).map Finding.issue) =
      if i.status = .active && !isNamed i.acl then
        [(Finding.openInterface i.lineNumber i.name).issue]
      else [] := by
  rw [missingAccessControl, List.map_append, issuesAt_append,
    issuesAt_elsewhere VtyLine.lineNumber _ (fun _ => rfl) _ fun v hv =>
      Inventory.lineNumber_ne hi hv, List.nil_append]
  exact issuesAt_block Interface.lineNumber _ (fun _ => rfl) _ (Inventory.pairwise_interfaces t) hi

theorem issuesAt_missingAccessControl_vtyLine {v : VtyLine}
    (hv : v ∈ (Inventory.ofText t).vtyLines) :
    issuesAt v.lineNumber ((missingAccessControl (.ofText t)).map Finding.issue) =
      if !isNamed v.accessClass then [(Finding.openVtyLine v.lineNumber v.range).issue] else [] := by
  rw [missingAccessControl, List.map_append, issuesAt_append,
    issuesAt_elsewhere Interface.lineNumber _ (fun _ => rfl) _ fun i hi =>
      (Inventory.lineNumber_ne hi hv).symm, List.append_nil]
  exact issuesAt_block VtyLine.lineNumber _ (fun _ => rfl) _ (Inventory.pairwise_vtyLines t) hv

end Headers

section Totals

/-- The findings of a check of some blocks are all of one severity. -/
theorem countP_severity_blocks {α : Type} {finding : α → Finding} {s : Severity}
    (hs : ∀ b, (finding b).issue.severity = s) (q : α → Bool) (blocks : List α) (r : Severity) :
    (((blocks.filter q).map finding).map Finding.issue).countP (·.severity = r) =
      if s = r then blocks.countP q else 0 := by
  rw [List.countP_map, List.countP_map, List.countP_filter]
  split_ifs with hr
  · exact List.countP_congr fun b _ => by simp [hs, hr]
  · exact List.countP_eq_zero.mpr fun b _ => by simp [hs, hr]

variable (i : Inventory)

theorem countP_missingAccessControl (r : Severity) :
    ((missingAccessControl i).map Finding.issue).countP (·.severity = r) =
      (if .high = r then i.vtyLines.countP (!isNamed ·.accessClass) else 0) +
        if .medium = r then i.interfaces.countP fun f => f.status = .active && !isNamed f.acl
        else 0 := by
  rw [missingAccessControl, List.map_append, List.countP_append,
    countP_severity_blocks (s := .high) (fun _ => rfl),
    countP_severity_blocks (s := .medium) (fun _ => rfl)]

theorem length_unusedInterfaces :
    (unusedInterfaces i).length = i.interfaces.countP (·.status ≠ .active) := by
  rw [unusedInterfaces, List.length_map, List.countP_eq_length_filter]

theorem totalInterfaces_eq :
    i.interfaces.length = (unusedInterfaces i).length +
      ((missingAccessControl i).map Finding.issue).countP (·.severity = .medium) +
      i.interfaces.countP fun f => f.status = .active && isNamed f.acl := by
  have hactive := i.interfaces.length_eq_countP_add_countP (·.status = .active)
  have hnamed := i.interfaces.countP_eq_countP_filter_add (·.status = .active) (isNamed ·.acl)
  simp only [List.countP_filter] at hnamed
  rw [countP_missingAccessControl, length_unusedInterfaces]
  simp only [reduceCtorEq, if_false, if_true, decide_eq_true_eq, ne_eq] at hactive ⊢
  omega

theorem totalVtyLines_eq :
    i.vtyLines.length =
      ((missingAccessControl i).map Finding.issue).countP (·.severity = .high) +
      i.vtyLines.countP (isNamed ·.accessClass) := by
  have hnamed := i.vtyLines.length_eq_countP_add_countP (isNamed ·.accessClass)
  rw [countP_missingAccessControl]
  simp only [reduceCtorEq, if_false, if_true, Bool.not_eq_true, Bool.decide_eq_false] at hnamed ⊢
  omega

end Totals

section Accounted

variable {t : Text}

theorem interface_accountedFor {i : Interface} (hi : i ∈ (Inventory.ofText t).interfaces) :
    i.AccountedFor ((missingAccessControl (.ofText t)).map Finding.issue)
      ((unusedInterfaces (.ofText t)).map Finding.issue) := by
  have hunused := issuesAt_unusedInterfaces hi
  have hopen := issuesAt_missingAccessControl_interface hi
  by_cases hstatus : i.status = .active
  · simp only [hstatus, ne_eq, not_true_eq_false, if_false] at hunused
    cases hacl : isNamed i.acl with
    | false =>
      simp only [hstatus, hacl, decide_true, Bool.not_false, Bool.and_self, if_true] at hopen
      exact .exposed hstatus hacl hopen hunused
    | true =>
      simp only [hacl, Bool.not_true, Bool.and_false, Bool.false_eq_true, if_false] at hopen
      exact .guarded hstatus hacl hopen hunused
  · simp only [hstatus, ne_eq, not_false_eq_true, if_true] at hunused
    simp only [hstatus, decide_false, Bool.false_and, Bool.false_eq_true, if_false] at hopen
    exact .idle hstatus hunused hopen

theorem vtyLine_accountedFor {v : VtyLine} (hv : v ∈ (Inventory.ofText t).vtyLines) :
    v.AccountedFor ((missingAccessControl (.ofText t)).map Finding.issue) := by
  have hopen := issuesAt_missingAccessControl_vtyLine hv
  cases hclass : isNamed v.accessClass with
  | false =>
    simp only [hclass, Bool.not_false, if_true] at hopen
    exact .exposed hclass hopen
  | true =>
    simp only [hclass, Bool.not_true, Bool.false_eq_true, if_false] at hopen
    exact .guarded hclass hopen

end Accounted

/-- Each block has one report or a reason for none, and so the totals of the summary are made up of
the reports and of the blocks with access control. -/
theorem blocks_accountedFor (p : Policy) (t : Text) :
    ∃ openBlocks unused : List Issue,
      issues? "missing_access_control" p t = some openBlocks ∧
      issues? "unused_interfaces" p t = some unused ∧
      (∀ i ∈ (Inventory.ofText t).interfaces, i.AccountedFor openBlocks unused) ∧
      (∀ v ∈ (Inventory.ofText t).vtyLines, v.AccountedFor openBlocks) ∧
      (Inventory.ofText t).summary.totalInterfaces =
        unused.length + openBlocks.countP (·.severity = .medium) +
          (Inventory.ofText t).interfaces.countP (fun i => i.status = .active && isNamed i.acl) ∧
      (Inventory.ofText t).summary.totalVtyLines =
        openBlocks.countP (·.severity = .high) +
          (Inventory.ofText t).vtyLines.countP (isNamed ·.accessClass) := by
  refine ⟨(missingAccessControl (.ofText t)).map Finding.issue,
    (unusedInterfaces (.ofText t)).map Finding.issue, rfl, rfl,
    fun i hi => interface_accountedFor hi, fun v hv => vtyLine_accountedFor hv, ?_, ?_⟩
  · have htotal := totalInterfaces_eq (Inventory.ofText t)
    simp only [Inventory.summary, List.length_map]
    omega
  · have htotal := totalVtyLines_eq (Inventory.ofText t)
    simp only [Inventory.summary]
    omega

/-- Two interfaces of one name, the second of them without a body, and a VTY line. -/
def twice : Text := "interface Gi0/1\n no shutdown\ninterface Gi0/1\nline vty 0 4"

theorem blocks_accountedFor_twice :
    ∃ openBlocks unused : List Issue,
      issues? "missing_access_control" {} twice = some openBlocks ∧
      issues? "unused_interfaces" {} twice = some unused ∧
      issuesAt 1 openBlocks = [(Finding.openInterface 1 "Gi0/1").issue] ∧
      issuesAt 3 unused = [(Finding.unusedInterface 3 "Gi0/1").issue] ∧
      issuesAt 4 openBlocks = [(Finding.openVtyLine 4 "0 4").issue] := by
  have hinventory : Inventory.ofText twice =
    ⟨[{ name := "Gi0/1", status := .active, lineNumber := 1 },
      { name := "Gi0/1", lineNumber := 3 }], [{ range := "0 4", lineNumber := 4 }], []⟩ := by decide
  obtain ⟨openBlocks, unused, hopen, hunused, hinterfaces, hvtyLines, -⟩ :=
    blocks_accountedFor {} twice
  rw [hinventory] at hinterfaces hvtyLines
  refine ⟨openBlocks, unused, hopen, hunused, ?_, ?_, ?_⟩
  · cases hinterfaces { name := "Gi0/1", status := .active, lineNumber := 1 } (by simp) with
    | exposed _ _ reported _ => exact reported
    | idle status _ _ => exact absurd rfl status
    | guarded _ acl _ _ => cases acl
  · cases hinterfaces { name := "Gi0/1", lineNumber := 3 } (by simp) with
    | idle _ reported _ => exact reported
    | exposed status _ _ _ => cases status
    | guarded status _ _ _ => cases status
  · cases hvtyLines { range := "0 4", lineNumber := 4 } (by simp) with
    | exposed _ reported => exact reported
    | guarded accessClass _ => cases accessClass

end Check
end ConfigAudit
