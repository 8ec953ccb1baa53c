import ConfigAudit.Proofs.Check.Joined
import ConfigAudit.Proofs.Check.Telnet

/-! Where findings are located. Every finding on a line names a line of the configuration that
gives cause for it, and each check goes through the lines, or through its blocks, in their order. -/
namespace ConfigAudit

namespace Finding

/-- The line is of the kind that the finding is about. -/
def CausedBy (line : Text) : Finding → Prop
  | weakCredential _ credential => credential ∈ line.words
  | shortCredential _ length => ∃ credential ∈ line.words, credential.length = length
  | plainEnablePassword _ => ("enable password " : Text) <+: line
  | telnet _ => Check.NamesTelnet line
  | httpServer _ => ("ip http server" : Text) <:+: line ∧ ¬("no " : Text) <+: line
  | openVtyLine _ _ => ("line vty" : Text) <+: line
  | openInterface _ name | unusedInterface _ name =>
    ∃ rest, line = "interface " ++ rest ∧ Text.strip rest = name
  | absent _ => False

/-- What a finding on a line is about, without the particulars. -/
inductive Topic where
  | weakCredential
  | shortCredential
  | plainEnablePassword
  | telnet
  | httpServer
  | openVtyLine
  | openInterface
  | unusedInterface

/-- How the titles on a topic begin. -/
def Topic.opening : Topic → Text
  | weakCredential => "Weak"
  | shortCredential => "Pass"
  | plainEnablePassword => "Unen"
  | telnet => "Teln"
  | httpServer => "HTTP"
  | openVtyLine => "No a"
  | openInterface => "No A"
  | unusedInterface => "Unus"

theorem Topic.opening_injective : Function.Injective opening := by
  intro a b h
  cases a <;> cases b <;> first | rfl | exact absurd (String.toList_inj.mp h) (by decide)

def topic? : Finding → Option Topic
  | weakCredential _ _ => some .weakCredential
  | shortCredential _ _ => some .shortCredential
  | plainEnablePassword _ => some .plainEnablePassword
  | telnet _ => some .telnet
  | httpServer _ => some .httpServer
  | openVtyLine _ _ => some .openVtyLine
  | openInterface _ _ => some .openInterface
  | unusedInterface _ _ => some .unusedInterface
  | absent _ => none

/-- A title tells the topic of a finding that is on a line. -/
theorem topic?_eq_of_title {f : Finding} {title : Text} {topic : Topic} (hline : f.line? ≠ none)
    (htitle : f.issue.title = title) (hopening : title.take 4 = topic.opening) :
    f.topic? = some topic := by
  subst htitle
  cases f with
  | absent directive => exact absurd rfl hline
  | _ => exact congrArg some (Topic.opening_injective hopening)

theorem CausedBy.topic?_eq {f : Finding} {line title : Text} {topic : Topic}
    (hcause : f.CausedBy line) (htitle : f.issue.title = title)
    (hopening : title.take 4 = topic.opening) : f.topic? = some topic := by
  refine topic?_eq_of_title (fun hline => ?_) htitle hopening
  cases f with
  | absent directive => exact hcause
  | _ => cases hline

theorem location_of_line? {f : Finding} {n : Int} (h : f.line? = some n) :
    f.issue.location = Line.locate n := by
  cases f with
  | absent directive => cases h
  | _ => rw [← Option.some.inj h, issue]

end Finding

/-- What the title of an issue says is so on a line. -/
structure Issue.JustifiedBy (line : Text) (i : Issue) : Prop where
  openVtyLine : i.title = "No access-class on VTY line" → ("line vty" : Text) <+: line
  interface : ∀ name : Text,
    i.title = "No ACL on interface " ++ name ∨ i.title = "Unused interface: " ++ name →
      ∃ rest, line = "interface " ++ rest ∧ Text.strip rest = name
  telnet : i.title = "Telnet enabled" →
    ("transport input telnet" : Text) <:+: line ∨ ("transport input all" : Text) <:+: line
  httpServer : i.title = "HTTP server enabled" →
    ("ip http server" : Text) <:+: line ∧ ¬("no " : Text) <+: line
  enablePassword : i.title = "Unencrypted enable password" → ("enable password " : Text) <+: line
  weakCredential : ∀ credential : Text,
    i.title = "Weak password detected: \"" ++ credential ++ "\"" → credential ∈ line.words

theorem Finding.CausedBy.justifies {f : Finding} {line : Text} (hcause : f.CausedBy line) :
    f.issue.JustifiedBy line where
  openVtyLine htitle := by
    have htopic : f.topic? = some .openVtyLine := hcause.topic?_eq htitle rfl
    cases f with
    | openVtyLine n range => exact hcause
    | _ => cases htopic
  interface name htitle := by
    rcases htitle with htitle | htitle
    · have htopic : f.topic? = some .openInterface := hcause.topic?_eq htitle rfl
      cases f with
      | openInterface n name =>
        obtain rfl := List.append_cancel_left htitle
        exact hcause
      | _ => cases htopic
    · have htopic : f.topic? = some .unusedInterface := hcause.topic?_eq htitle rfl
      cases f with
      | unusedInterface n name =>
        obtain rfl := List.append_cancel_left htitle
        exact hcause
      | _ => cases htopic
  telnet htitle := by
    have htopic : f.topic? = some .telnet := hcause.topic?_eq htitle rfl
    cases f with
    | telnet n => exact hcause
    | _ => cases htopic
  httpServer htitle := by
    have htopic : f.topic? = some .httpServer := hcause.topic?_eq htitle rfl
    cases f with
    | httpServer n => exact hcause
    | _ => cases htopic
  enablePassword htitle := by
    have htopic : f.topic? = some .plainEnablePassword := hcause.topic?_eq htitle rfl
    cases f with
    | plainEnablePassword n => exact hcause
    | _ => cases htopic
  weakCredential credential htitle := by
    have htopic : f.topic? = some .weakCredential := hcause.topic?_eq htitle rfl
    cases f with
    | weakCredential n found =>
      obtain rfl := List.append_cancel_left (List.append_cancel_right htitle)
      exact hcause
    | _ => cases htopic

/-- An issue on a line of a text that justifies it. -/
def Issue.Traced (t : Text) (i : Issue) : Prop :=
  ∃ (k : Nat) (line : Text), t.lines[k]? = some line ∧
    i.location = Line.locate (k + 1 : Nat) ∧ i.JustifiedBy line

/-- The numbers of the lines of two issues are related. -/
def Issue.LinesRelated (r : Int → Int → Prop) (i j : Issue) : Prop :=
  ∀ n m : Int, i.location = Line.locate n → j.location = Line.locate m → r n m

theorem Finding.linesRelated {r : Int → Int → Prop} {f g : Finding} {n m : Int} (hf : f.line? = some n)
    (hg : g.line? = some m) (h : r n m) : f.issue.LinesRelated r g.issue := by
  intro n' m' hn hm
  rw [location_of_line? hf] at hn
  rw [location_of_line? hg] at hm
  rwa [← Line.locate_injective hn, ← Line.locate_injective hm]

theorem Finding.traced {t line : Text} {k : Nat} {f : Finding} (hline : t.lines[k]? = some line)
    (hf : f.line? = some ((k + 1 : Nat) : Int)) (hcause : f.CausedBy line) : f.issue.Traced t :=
  ⟨k, line, hline, location_of_line? hf, hcause.justifies⟩

/-- Issues on lines of a text, in an order of the lines. -/
structure TracedInOrder (r : Int → Int → Prop) (t : Text) (issues : List Issue) : Prop where
  traced : ∀ i ∈ issues, i.Traced t
  ordered : issues.Pairwise (Issue.LinesRelated r)

theorem Line.pairwise_number_numberFrom (start : Int) (l : List Text) :
    (numberFrom start l).Pairwise (·.number < ·.number) := by
  induction l generalizing start with
  | nil => exact .nil
  | cons t r ih =>
    refine List.pairwise_cons.mpr ⟨fun x hx => ?_, ih (start + 1)⟩
    have hstart := start_le_of_mem hx
    show start < x.number
    omega

namespace Block

theorem le_lineNumber_of_mem_allFrom {keywords : Text} {n : Nat} {lines : List Text} {b : Block}
    (hb : b ∈ allFrom keywords n lines) : n ≤ b.lineNumber := by
  induction lines generalizing n with
  | nil => cases hb
  | cons t r ih =>
    rw [allFrom, List.mem_append, Option.mem_toList] at hb
    rcases hb with hb | hb
    · obtain ⟨-, rfl⟩ := headed?_eq_some_iff.mp hb
      exact Nat.le_refl n
    · have hlater := ih hb
      omega

theorem pairwise_lineNumber_allFrom (keywords : Text) (n : Nat) (lines : List Text) :
    (allFrom keywords n lines).Pairwise (·.lineNumber < ·.lineNumber) := by
  induction lines generalizing n with
  | nil => exact .nil
  | cons t r ih =>
    rw [allFrom, List.pairwise_append]
    refine ⟨?_, ih (n + 1), fun b hb c hc => ?_⟩
    · cases headed? keywords n t r with
      | none => exact .nil
      | some b => exact List.pairwise_singleton _ b
    · obtain ⟨-, rfl⟩ := headed?_eq_some_iff.mp (Option.mem_toList.mp hb)
      exact le_lineNumber_of_mem_allFrom hc

end Block

namespace Check

section Lines

variable {p : Policy} {onLine : Line → List Finding}

/-- What holds of the findings on each line holds of the check of all lines. -/
theorem tracedInOrder_of_lines
    (hfound : ∀ l, ∀ f ∈ onLine l, f.line? = some l.number ∧ f.CausedBy l.text) (t : Text) :
    TracedInOrder (· ≤ ·) t
      (((judged p (Line.ofText t)).flatMap onLine).map Finding.issue) where
  traced := by
    intro i hi
    obtain ⟨f, hf, rfl⟩ := List.mem_map.mp hi
    obtain ⟨l, hl, hf⟩ := List.mem_flatMap.mp hf
    obtain ⟨k, hline, hnumber⟩ := Line.mem_ofText_iff.mp (List.mem_of_mem_filter hl)
    obtain ⟨hnumbered, hcause⟩ := hfound l f hf
    refine Finding.traced hline ?_ hcause
    rw [hnumbered, hnumber, Int.natCast_add, Int.natCast_one, Int.add_comm]
  ordered := by
    have hlines : (judged p (Line.ofText t)).Pairwise (·.number < ·.number) :=
      (Line.pairwise_number_numberFrom 1 t.lines).filter _
    refine List.pairwise_map.mpr (List.pairwise_flatMap.mpr ⟨fun l _ => ?_, hlines.imp ?_⟩)
    -- Findings on one line have one number, so the order is not strict.
    · refine List.pairwise_of_forall_mem_list fun f hf g hg => ?_
      exact Finding.linesRelated (hfound l f hf).1 (hfound l g hg).1 (Int.le_refl _)
    · intro l m hlm f hf g hg
      exact Finding.linesRelated (hfound l f hf).1 (hfound m g hg).1 (Int.le_of_lt hlm)

end Lines

theorem credential_mem_words {afterKeyword : Bool} {t : Text}
    (h : credential afterKeyword t ≠ []) : credential afterKeyword t ∈ t.words := by
  unfold credential at h ⊢
  split_ifs at h ⊢
  · have hrest : ∀ word ∈ t.words.dropWhile (!isCredentialKeyword ·), word ∈ t.words :=
      fun word hword => List.dropWhile_subset _ hword
    split at h
    · rename_i keyword a b others heq
      rw [heq] at hrest
      split_ifs
      · exact hrest b (by simp)
      · exact hrest a (by simp)
    · rename_i keyword a heq
      rw [heq] at hrest
      exact hrest a (by simp)
    · exact absurd rfl h
  · rw [wordAt, List.getD_eq_getElem?_getD] at h ⊢
    cases hword : t.words[1]? with
    | none => exact absurd (by rw [hword]; rfl) h
    | some word => exact List.mem_of_getElem? hword

theorem causedBy_of_mem_credentialFindings {p : Policy} {l : Line} {f : Finding}
    (hf : f ∈ credentialFindings p l) : f.CausedBy l.text := by
  unfold credentialFindings at hf
  dsimp only at hf
  rw [List.mem_ite_nil_right, List.mem_append, List.mem_ite_nil_right, List.mem_ite_nil_right,
    List.mem_singleton, List.mem_singleton] at hf
  obtain ⟨hnamed, hf⟩ := hf
  simp only [Bool.and_eq_true, decide_eq_true_eq] at hnamed
  have hword := credential_mem_words hnamed.1.2
  rcases hf with ⟨-, rfl⟩ | ⟨-, rfl⟩
  · exact hword
  · exact ⟨_, hword, rfl⟩

theorem weakPasswords_tracedInOrder (p : Policy) (t : Text) :
    TracedInOrder (· ≤ ·) t ((weakPasswords p (Line.ofText t)).map Finding.issue) := by
  refine tracedInOrder_of_lines (fun l f hf => ?_) t
  rcases List.mem_append.mp hf with hf | hf
  · exact ⟨line?_of_mem_credentialFindings hf, causedBy_of_mem_credentialFindings hf⟩
  · rw [enablePasswordFindings, List.mem_ite_nil_right, List.mem_singleton] at hf
    obtain ⟨hstarts, rfl⟩ := hf
    exact ⟨rfl, List.isPrefixOf_iff_prefix.mp hstarts⟩

theorem insecureServices_tracedInOrder (p : Policy) (t : Text) :
    TracedInOrder (· ≤ ·) t ((insecureServices p (Line.ofText t)).map Finding.issue) := by
  refine tracedInOrder_of_lines (fun l f hf => ?_) t
  rcases List.mem_append.mp hf with hf | hf
  · obtain ⟨hnames, rfl⟩ := mem_telnetFindings_iff.mp hf
    exact ⟨rfl, hnames⟩
  · rw [httpFindings, List.mem_ite_nil_right, List.mem_singleton, Bool.and_eq_true,
      Bool.not_eq_true', Text.includes_iff_infix] at hf
    obtain ⟨⟨hincludes, hstarts⟩, rfl⟩ := hf
    refine ⟨rfl, hincludes, fun hno => ?_⟩
    exact Bool.false_ne_true (hstarts.symm.trans (List.isPrefixOf_iff_prefix.mpr hno))

section Blocks

variable {α : Type} {keywords : Text} {record : Block → α} {finding : α → Finding}

/-- What holds of the finding on each block holds of a check that reports some blocks. -/
theorem tracedInOrder_of_blocks
    (hfound : ∀ b, (finding (record b)).line? = some b.lineNumber)
    (hcause : ∀ b line rest, line = keywords ++ rest → b.heading = Text.strip rest →
      (finding (record b)).CausedBy line) (q : α → Bool) (t : Text) :
    TracedInOrder (· < ·) t
      (((((Block.all keywords t.lines).map record).filter q).map finding).map Finding.issue) where
  traced := by
    intro i hi
    obtain ⟨f, hf, rfl⟩ := List.mem_map.mp hi
    obtain ⟨a, ha, rfl⟩ := List.mem_map.mp hf
    obtain ⟨b, hb, rfl⟩ := List.mem_map.mp (List.mem_of_mem_filter ha)
    obtain ⟨k, line, hline, hheaded⟩ := Block.mem_all_iff.mp hb
    obtain ⟨hstarts, rfl⟩ := Block.headed?_eq_some_iff.mp hheaded
    obtain ⟨rest, rfl⟩ := List.isPrefixOf_iff_prefix.mp hstarts
    refine Finding.traced hline (hfound _) (hcause _ _ rest rfl ?_)
    rw [List.drop_left]
  ordered := by
    have hblocks := Block.pairwise_lineNumber_allFrom keywords 1 t.lines
    rw [← Block.all_eq_allFrom] at hblocks
    refine List.pairwise_map.mpr (List.pairwise_map.mpr (List.Pairwise.filter q ?_))
    refine List.pairwise_map.mpr (hblocks.imp fun {b c} hbc => ?_)
    exact Finding.linesRelated (hfound b) (hfound c) (Int.ofNat_lt.mpr hbc)

end Blocks

theorem unusedInterfaces_tracedInOrder (t : Text) :
    TracedInOrder (· < ·) t ((unusedInterfaces (Inventory.ofText t)).map Finding.issue) := by
  rw [unusedInterfaces, Inventory.ofText_eq_allFrom, ← Block.all_eq_allFrom]
  refine tracedInOrder_of_blocks (fun _ => rfl) (fun b line rest hline hheading => ?_) _ t
  exact ⟨rest, hline, hheading.symm⟩

/-- The findings on VTY lines stand in front of those on interfaces. -/
theorem missingAccessControl_tracedInOrder (t : Text) :
    ∃ openVtyLines openInterfaces : List Issue,
      (missingAccessControl (Inventory.ofText t)).map Finding.issue =
        openVtyLines ++ openInterfaces ∧
      (∀ i ∈ openVtyLines, i.title = "No access-class on VTY line") ∧
      (∀ i ∈ openInterfaces, ∃ name : Text, i.title = "No ACL on interface " ++ name) ∧
      TracedInOrder (· < ·) t openVtyLines ∧ TracedInOrder (· < ·) t openInterfaces := by
  rw [missingAccessControl, Inventory.ofText_eq_allFrom, ← Block.all_eq_allFrom,
    ← Block.all_eq_allFrom, List.map_append]
  refine ⟨_, _, rfl, ?_, ?_, ?_, ?_⟩
  · intro i hi
    simp only [List.map_map, List.mem_map] at hi
    obtain ⟨v, -, rfl⟩ := hi
    rfl
  · intro i hi
    simp only [List.map_map, List.mem_map] at hi
    obtain ⟨f, -, rfl⟩ := hi
    exact ⟨_, rfl⟩
  · refine tracedInOrder_of_blocks (fun _ => rfl) (fun b line rest hline _ => ?_) _ t
    exact ⟨rest, hline.symm⟩
  · refine tracedInOrder_of_blocks (fun _ => rfl) (fun b line rest hline hheading => ?_) _ t
    exact ⟨rest, hline, hheading.symm⟩

/-- Every issue of the four checks is on a line that justifies its title. The checks of lines report
in the order of the lines, with more than one issue on some; the checks of blocks report strictly
in the order of the headers, VTY lines and interfaces each for themselves. -/
theorem issues_tracedInOrder (p : Policy) (t : Text) :
    (∃ issues, issues? "weak_passwords" p t = some issues ∧ TracedInOrder (· ≤ ·) t issues) ∧
    (∃ issues, issues? "insecure_services" p t = some issues ∧ TracedInOrder (· ≤ ·) t issues) ∧
    (∃ openVtyLines openInterfaces : List Issue,
      issues? "missing_access_control" p t = some (openVtyLines ++ openInterfaces) ∧
      (∀ i ∈ openVtyLines, i.title = "No access-class on VTY line") ∧
      (∀ i ∈ openInterfaces, ∃ name : Text, i.title = "No ACL on interface " ++ name) ∧
      TracedInOrder (· < ·) t openVtyLines ∧ TracedInOrder (· < ·) t openInterfaces) ∧
    ∃ issues, issues? "unused_interfaces" p t = some issues ∧ TracedInOrder (· < ·) t issues := by
  refine ⟨⟨_, rfl, weakPasswords_tracedInOrder p t⟩, ⟨_, rfl, insecureServices_tracedInOrder p t⟩,
    ?_, ⟨_, rfl, unusedInterfaces_tracedInOrder t⟩⟩
  obtain ⟨openVtyLines, openInterfaces, hissues, htitles⟩ := missingAccessControl_tracedInOrder t
  exact ⟨openVtyLines, openInterfaces, congrArg some hissues, htitles⟩

end Check
end ConfigAudit
