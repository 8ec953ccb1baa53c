import ConfigAudit.Proofs.Check.Reported
import ConfigAudit.Proofs.Device.Position
import ConfigAudit.Proofs.Text.Search

/-! Blocks without access control. The reader counts every line that mentions a directive and takes
the word at a fixed place for the name of the access list, so a block goes unreported if the last
line that counts is long enough, whatever it says. -/
namespace ConfigAudit

/-- The words of a line are some keywords and a name behind them. -/
def NamesList (keywords : List Text) (t : Text) : Prop :=
  keywords <+: t.words ∧ keywords.length < t.words.length

instance (keywords : List Text) (t : Text) : Decidable (NamesList keywords t) :=
  inferInstanceAs (Decidable (_ ∧ _))

def accessGroup : List Text := ["ip", "access-group"]

def accessClass : List Text := ["access-class"]

theorem isNamed_word_eq_false_iff (t : Text) (k : Nat) :
    isNamed (some ((t.words[k]?).getD [])) = false ↔ t.words.length ≤ k := by
  have hnamed (name : Text) : isNamed (some name) = false ↔ name = [] := by simp [isNamed]
  rw [hnamed]
  constructor
  · intro hempty
    by_contra hlength
    have hword := List.getElem?_eq_getElem (not_le.mp hlength)
    rw [hword, Option.getD_some] at hempty
    exact Text.ne_nil_of_mem_words (List.getElem_mem _) hempty
  · intro hlength
    rw [List.getElem?_eq_none hlength, Option.getD_none]

namespace Block

variable {b : Block} {q : Text → Bool} {keywords : List Text}

/-- The line that counts ends in front of the place of the name. -/
def Unnamed (b : Block) (q : Text → Bool) (keywords : List Text) : Prop :=
  ∀ line, b.last? q = some line → line.words.length ≤ keywords.length

theorem isNamed_eq_false_iff :
    isNamed ((b.last? q).map fun t => (t.words[keywords.length]?).getD []) = false ↔
      b.Unnamed q keywords := by
  unfold Unnamed
  cases b.last? q with
  | none => simp [isNamed]
  | some line => simp only [Option.map_some, isNamed_word_eq_false_iff, Option.some.injEq,
      forall_eq']

/-- If the line that counts begins with the keywords, only a named list keeps a block closed. -/
theorem unnamed_of_prefix (hbegins : ∀ line, b.last? q = some line → keywords <+: line.words)
    (hnone : ∀ line ∈ b.body, ¬NamesList keywords line) : b.Unnamed q keywords := by
  intro line hline
  have hmem : line ∈ b.body := (last?_eq_some hline).1
  exact not_lt.mp fun hlonger => hnone line hmem ⟨hbegins line hline, hlonger⟩

end Block

namespace Check

/-- The missing access list is reported where the block begins, under its name. -/
def InterfaceReported (p : Policy) (t : Text) (b : Block) : Prop :=
  Reports "missing_access_control" p t (Finding.openInterface b.lineNumber b.heading).issue

def VtyLineReported (p : Policy) (t : Text) (b : Block) : Prop :=
  Reports "missing_access_control" p t (Finding.openVtyLine b.lineNumber b.heading).issue

theorem mem_missingAccessControl_iff {t : Text} {f : Finding} :
    f ∈ missingAccessControl (Inventory.ofText t) ↔
      (∃ b ∈ Block.all "line vty" t.lines, b.Unnamed isAccessClassLine accessClass ∧
        f = .openVtyLine b.lineNumber b.heading) ∨
      ∃ b ∈ Block.all "interface " t.lines, b.toInterface.status = .active ∧
        b.Unnamed isAccessGroupLine accessGroup ∧ f = .openInterface b.lineNumber b.heading := by
  simp only [missingAccessControl, List.mem_append, List.mem_map, List.mem_filter,
    Inventory.mem_vtyLines_iff, Inventory.mem_interfaces_iff, Bool.and_eq_true,
    Bool.not_eq_true', decide_eq_true_eq]
  constructor
  · rintro (⟨_, ⟨⟨b, hb, rfl⟩, hopen⟩, rfl⟩ | ⟨_, ⟨⟨b, hb, rfl⟩, hactive, hopen⟩, rfl⟩)
    · exact .inl ⟨b, hb, Block.isNamed_eq_false_iff.mp hopen, rfl⟩
    · exact .inr ⟨b, hb, hactive, Block.isNamed_eq_false_iff.mp hopen, rfl⟩
  · rintro (⟨b, hb, hopen, rfl⟩ | ⟨b, hb, hactive, hopen, rfl⟩)
    · exact .inl ⟨_, ⟨⟨b, hb, rfl⟩, Block.isNamed_eq_false_iff.mpr hopen⟩, rfl⟩
    · exact .inr ⟨_, ⟨⟨b, hb, rfl⟩, hactive, Block.isNamed_eq_false_iff.mpr hopen⟩, rfl⟩

section Reported

variable {p : Policy} {t : Text} {b : Block}

theorem interfaceReported_iff (hb : b ∈ Block.all "interface " t.lines) :
    InterfaceReported p t b ↔
      b.toInterface.status = .active ∧ b.Unnamed isAccessGroupLine accessGroup := by
  rw [InterfaceReported, reports_missingAccessControl_iff]
  constructor
  · rintro ⟨f, hf, hissue⟩
    rcases mem_missingAccessControl_iff.mp hf with ⟨c, hc, -, rfl⟩ | ⟨c, hc, hactive, hopen, rfl⟩
    · have hseverity : Severity.high = .medium := congrArg Issue.severity hissue
      cases hseverity
    · have hlocation := congrArg Issue.location hissue
      obtain rfl := Block.eq_of_locate_eq hc hb hlocation
      exact ⟨hactive, hopen⟩
  · rintro ⟨hactive, hopen⟩
    exact ⟨_, mem_missingAccessControl_iff.mpr (.inr ⟨b, hb, hactive, hopen, rfl⟩), rfl⟩

theorem vtyLineReported_iff (hb : b ∈ Block.all "line vty" t.lines) :
    VtyLineReported p t b ↔ b.Unnamed isAccessClassLine accessClass := by
  rw [VtyLineReported, reports_missingAccessControl_iff]
  constructor
  · rintro ⟨f, hf, hissue⟩
    rcases mem_missingAccessControl_iff.mp hf with ⟨c, hc, hopen, rfl⟩ | ⟨c, hc, -, -, rfl⟩
    · have hlocation := congrArg Issue.location hissue
      obtain rfl := Block.eq_of_locate_eq hc hb hlocation
      exact hopen
    · have hseverity : Severity.medium = .high := congrArg Issue.severity hissue
      cases hseverity
  · intro hopen
    exact ⟨_, mem_missingAccessControl_iff.mpr (.inl ⟨b, hb, hopen, rfl⟩), rfl⟩

end Reported

/-- A block is reported exactly if the line that counts names nothing. No unprotected block is
passed over as long as that line begins with its keywords. -/
theorem openBlocks_reported (p : Policy) (t : Text) :
    (∀ b ∈ Block.all "interface " t.lines,
      b.toInterface ∈ (Inventory.ofText t).interfaces ∧
      (InterfaceReported p t b ↔
        b.toInterface.status = .active ∧ b.Unnamed isAccessGroupLine accessGroup) ∧
      (b.toInterface.status = .active →
        (∀ line, b.last? isAccessGroupLine = some line → accessGroup <+: line.words) →
        (∀ line ∈ b.body, ¬NamesList accessGroup line) → InterfaceReported p t b)) ∧
    ∀ b ∈ Block.all "line vty" t.lines,
      b.toVtyLine ∈ (Inventory.ofText t).vtyLines ∧
      (VtyLineReported p t b ↔ b.Unnamed isAccessClassLine accessClass) ∧
      ((∀ line, b.last? isAccessClassLine = some line → accessClass <+: line.words) →
        (∀ line ∈ b.body, ¬NamesList accessClass line) → VtyLineReported p t b) := by
  constructor
  · intro b hb
    have hreported := interfaceReported_iff (p := p) hb
    refine ⟨Inventory.mem_interfaces_iff.mpr ⟨b, hb, rfl⟩, hreported, ?_⟩
    intro hactive hbegins hnone
    exact hreported.mpr ⟨hactive, Block.unnamed_of_prefix hbegins hnone⟩
  · intro b hb
    have hreported := vtyLineReported_iff (p := p) hb
    refine ⟨Inventory.mem_vtyLines_iff.mpr ⟨b, hb, rfl⟩, hreported, ?_⟩
    intro hbegins hnone
    exact hreported.mpr (Block.unnamed_of_prefix hbegins hnone)

theorem openBlocks_reported_unnamed :
    ∃ b c : Block, b.heading = "Gi0/1" ∧ c.heading = "0 4" ∧
      InterfaceReported {} "interface Gi0/1\n no shutdown\n ip access-group\nline vty 0 4" b ∧
      VtyLineReported {} "interface Gi0/1\n no shutdown\n ip access-group\nline vty 0 4" c := by
  obtain ⟨hinterfaces, hvtyLines⟩ :=
    openBlocks_reported {} "interface Gi0/1\n no shutdown\n ip access-group\nline vty 0 4"
  obtain ⟨-, -, hinterface⟩ :=
    hinterfaces ⟨1, "Gi0/1", ["no shutdown", "ip access-group"]⟩ List.mem_cons_self
  obtain ⟨-, -, hvtyLine⟩ := hvtyLines ⟨4, "0 4", []⟩ List.mem_cons_self
  have hline (line : Text) (h : some ("ip access-group" : Text) = some line) :
      accessGroup <+: line.words := by
    obtain rfl := Option.some.inj h
    decide
  exact ⟨_, _, rfl, rfl, hinterface rfl hline (by decide), hvtyLine nofun (by decide)⟩

/-- Both directives, negated. -/
def negatedLists : Text :=
  "interface Gi0/1\n no shutdown\n no ip access-group IN in\nline vty 0 4\n no access-class 10 in"

/-- A negated directive counts as protection. -/
theorem openBlocks_unreported_negated :
    (∃ b ∈ Block.all "interface " negatedLists.lines, b.toInterface.status = .active ∧
      ∀ line ∈ b.body, ¬NamesList accessGroup line) ∧
    (∃ b ∈ Block.all "line vty" negatedLists.lines,
      ∀ line ∈ b.body, ¬NamesList accessClass line) ∧
    ¬∃ i, Reports "missing_access_control" {} negatedLists i := by
  have hnone : missingAccessControl (Inventory.ofText negatedLists) = [] := by decide
  refine ⟨⟨⟨1, "Gi0/1", ["no shutdown", "no ip access-group IN in"]⟩, ?_⟩,
    ⟨⟨4, "0 4", ["no access-class 10 in"]⟩, ?_⟩, ?_⟩
  · exact ⟨List.mem_cons_self, rfl, by decide⟩
  · exact ⟨List.mem_cons_self, by decide⟩
  rintro ⟨i, hi⟩
  obtain ⟨f, hf, -⟩ := (reports_missingAccessControl_iff _ _ i).mp hi
  rw [hnone] at hf
  cases hf

end Check
end ConfigAudit
