import ConfigAudit.Proofs.Device.Block

/-! Where lines and blocks stand in a text. A line number belongs to one line, and so to one block
of each kind at most. -/
namespace ConfigAudit

namespace Text

theorem ofNat_injective : Function.Injective ofNat := by
  intro n m h
  have hread := congrArg (Nat.ofDigitChars 10 · 0) h
  simpa only [ofNat, Nat.ofDigitChars_ten_toDigits] using hread

theorem minus_notMem_ofNat (n : Nat) : '-' ∉ ofNat n := by
  intro hmem
  have hdigit : ('-').isDigit = true := Nat.isDigit_of_mem_toDigits (by decide) (by decide) hmem
  exact absurd hdigit (by decide)

theorem ofInt_injective : Function.Injective ofInt := by
  intro n m h
  cases n with
  | ofNat n =>
    cases m with
    | ofNat m => exact congrArg Int.ofNat (ofNat_injective h)
    | negSucc m =>
      have hdigits : ofNat n = '-' :: ofNat (m + 1) := h
      exact absurd (hdigits ▸ List.mem_cons_self) (minus_notMem_ofNat n)
  | negSucc n =>
    cases m with
    | ofNat m =>
      have hdigits : ofNat m = '-' :: ofNat (n + 1) := h.symm
      exact absurd (hdigits ▸ List.mem_cons_self) (minus_notMem_ofNat m)
    | negSucc m => exact congrArg Int.negSucc (Nat.succ.inj (ofNat_injective (List.cons.inj h).2))

end Text

namespace Line

theorem locate_injective : Function.Injective locate := fun _ _ h =>
  Text.ofInt_injective (List.append_cancel_left h)

theorem mem_numberFrom_iff {start : Int} {lines : List Text} {l : Line} :
    l ∈ numberFrom start lines ↔ ∃ k : Nat, lines[k]? = some l.text ∧ l.number = start + k := by
  induction lines generalizing start with
  | nil => simp
  | cons t r ih =>
    rw [numberFrom_cons, List.mem_cons, ih]
    constructor
    · rintro (rfl | ⟨k, hk, hnumber⟩)
      · exact ⟨0, rfl, (Int.add_zero start).symm⟩
      · exact ⟨k + 1, hk, by omega⟩
    · rintro ⟨k, hk, hnumber⟩
      cases k with
      | zero =>
        obtain ⟨number, text⟩ := l
        obtain rfl := Option.some.inj hk
        obtain rfl : number = start := hnumber.trans (Int.add_zero start)
        exact .inl rfl
      | succ k => exact .inr ⟨k, hk, by omega⟩

theorem mem_ofText_iff {t : Text} {l : Line} :
    l ∈ ofText t ↔ ∃ k : Nat, t.lines[k]? = some l.text ∧ l.number = 1 + k := mem_numberFrom_iff

end Line

namespace Block

variable {keywords : Text} {lines : List Text} {b c : Block}

theorem mem_all_iff :
    b ∈ all keywords lines ↔
      ∃ k t, lines[k]? = some t ∧ headed? keywords (k + 1) t (lines.drop (k + 1)) = some b := by
  simp only [all, List.mem_filterMap, Prod.exists, List.mk_mem_zipIdx_iff_le_and_getElem?_sub]
  constructor
  · rintro ⟨t, n, ⟨hn, ht⟩, hheaded⟩
    obtain ⟨k, rfl⟩ := Nat.exists_eq_add_of_le' hn
    exact ⟨k, t, ht, hheaded⟩
  · rintro ⟨k, t, ht, hheaded⟩
    exact ⟨t, k + 1, ⟨Nat.le_add_left 1 k, ht⟩, hheaded⟩

theorem headed?_eq_some_iff {n : Nat} {t : Text} {rest : List Text} :
    headed? keywords n t rest = some b ↔
      t.startsWith keywords = true ∧
        b = ⟨n, Text.strip (t.drop keywords.length), blockBody rest⟩ := by
  unfold headed?
  split_ifs with hstarts <;> simp [hstarts, eq_comm]

/-- Two blocks of one kind do not have the same header. -/
theorem eq_of_lineNumber_eq (hb : b ∈ all keywords lines) (hc : c ∈ all keywords lines)
    (h : b.lineNumber = c.lineNumber) : b = c := by
  obtain ⟨k, t, ht, hheaded⟩ := mem_all_iff.mp hb
  obtain ⟨m, s, hs, hheaded'⟩ := mem_all_iff.mp hc
  obtain ⟨-, rfl⟩ := headed?_eq_some_iff.mp hheaded
  obtain ⟨-, rfl⟩ := headed?_eq_some_iff.mp hheaded'
  obtain rfl : k = m := Nat.succ.inj h
  obtain rfl : t = s := Option.some.inj (ht.symm.trans hs)
  rfl

/-- The location that a report on a block gives belongs to no other block of the kind. -/
theorem eq_of_locate_eq (hb : b ∈ all keywords lines) (hc : c ∈ all keywords lines)
    (h : Line.locate b.lineNumber = Line.locate c.lineNumber) : b = c := by
  have hnumber : (b.lineNumber : Int) = c.lineNumber := Line.locate_injective h
  exact eq_of_lineNumber_eq hb hc (Int.ofNat.inj hnumber)

theorem body_prefix (hb : b ∈ all keywords lines) : b.body <+: lines.drop b.lineNumber := by
  obtain ⟨k, t, -, hheaded⟩ := mem_all_iff.mp hb
  obtain ⟨-, rfl⟩ := headed?_eq_some_iff.mp hheaded
  exact List.takeWhile_prefix _

/-- The line that counts is one of the body that satisfies the condition. -/
theorem last?_eq_some {q : Text → Bool} {line : Text} (h : b.last? q = some line) :
    line ∈ b.body ∧ q line = true := by
  rw [last?, List.findRev?_eq_find?_reverse] at h
  exact ⟨List.mem_reverse.mp (List.mem_of_find?_eq_some h), List.find?_some h⟩

/-- The lines of a block where it stands: the header and the body. -/
def linesIn (b : Block) (t : Text) : List Line :=
  (Line.ofText t).filter fun l =>
    b.lineNumber ≤ l.number ∧ l.number ≤ b.lineNumber + b.body.length

/-- The lines of a body where they stand: behind the header, up to the end of the block. -/
def bodyIn (b : Block) (t : Text) : List Line :=
  (Line.ofText t).filter fun l =>
    b.lineNumber < l.number ∧ l.number ≤ b.lineNumber + b.body.length

theorem exists_mem_bodyIn {t : Text} (hb : b ∈ all keywords t.lines) {line : Text}
    (hline : line ∈ b.body) : ∃ l ∈ b.bodyIn t, l.text = line := by
  obtain ⟨i, hi⟩ := List.mem_iff_getElem?.mp hline
  have hlength : i < b.body.length := (List.getElem?_eq_some_iff.mp hi).1
  obtain ⟨rest, hrest⟩ := body_prefix hb
  have hget : t.lines[b.lineNumber + i]? = some line := by
    rw [← List.getElem?_drop, ← hrest, List.getElem?_append_left hlength, hi]
  refine ⟨⟨1 + (b.lineNumber + i : Nat), line⟩, List.mem_filter.mpr ⟨?_, ?_⟩, rfl⟩
  · exact Line.mem_ofText_iff.mpr ⟨b.lineNumber + i, hget, rfl⟩
  · simp only [decide_eq_true_eq]
    omega

theorem bodyIn_subset_linesIn (b : Block) (t : Text) : b.bodyIn t ⊆ b.linesIn t := by
  intro l hl
  obtain ⟨hmem, hbehind⟩ := List.mem_filter.mp hl
  simp only [decide_eq_true_eq] at hbehind
  refine List.mem_filter.mpr ⟨hmem, ?_⟩
  simp only [decide_eq_true_eq]
  omega

theorem exists_mem_linesIn {t : Text} (hb : b ∈ all keywords t.lines) {line : Text}
    (hline : line ∈ b.body) : ∃ l ∈ b.linesIn t, l.text = line := by
  obtain ⟨l, hl, htext⟩ := exists_mem_bodyIn hb hline
  exact ⟨l, bodyIn_subset_linesIn b t hl, htext⟩

end Block

namespace Inventory

theorem mem_interfaces_iff {t : Text} {i : Interface} :
    i ∈ (ofText t).interfaces ↔ ∃ b ∈ Block.all "interface " t.lines, b.toInterface = i := by
  rw [ofText_eq_allFrom, Block.all_eq_allFrom, List.mem_map]

theorem mem_vtyLines_iff {t : Text} {v : VtyLine} :
    v ∈ (ofText t).vtyLines ↔ ∃ b ∈ Block.all "line vty" t.lines, b.toVtyLine = v := by
  rw [ofText_eq_allFrom, Block.all_eq_allFrom, List.mem_map]

end Inventory
end ConfigAudit
