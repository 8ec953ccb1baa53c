import ConfigAudit.Proofs.Check.Reported
import ConfigAudit.Proofs.Device.Position
import ConfigAudit.Proofs.Text.Search

/-! Telnet on VTY lines. The reader takes a `transport input` directive apart into protocols, while
the check looks for two phrases, so it sees Telnet only where a phrase stands on the line. -/
namespace ConfigAudit.Check

/-- One of the two phrases stands on a line. -/
def NamesTelnet (t : Text) : Prop :=
  ("transport input telnet" : Text) <:+: t ∨ ("transport input all" : Text) <:+: t

/-- Telnet is reported on a line of a block. -/
def TelnetReported (p : Policy) (t : Text) (b : Block) : Prop :=
  ∃ i, Reports "insecure_services" p t i ∧ i.severity = .critical ∧ i.title = "Telnet enabled" ∧
    ∃ l ∈ b.linesIn t, i.location = l.location

theorem mem_telnetFindings_iff {l : Line} {f : Finding} :
    f ∈ telnetFindings l ↔ NamesTelnet l.text ∧ f = .telnet l.number := by
  unfold telnetFindings
  rw [List.mem_ite_nil_right, List.mem_singleton, Bool.or_eq_true, Text.includes_iff_infix,
    Text.includes_iff_infix]
  rfl

theorem mem_insecureServices_iff {p : Policy} (hjudged : p.skipCommentLines = false)
    {lines : List Line} {f : Finding} :
    f ∈ insecureServices p lines ↔ ∃ l ∈ lines, f ∈ telnetFindings l ∨ f ∈ httpFindings l := by
  have hall : judged p lines = lines := by
    simp only [judged, hjudged, Bool.false_and, Bool.not_false, List.filter_true]
  simp only [insecureServices, hall, List.mem_flatMap, List.mem_append]

theorem telnetReported_iff {p : Policy} (hjudged : p.skipCommentLines = false) (t : Text)
    (b : Block) : TelnetReported p t b ↔ ∃ l ∈ b.linesIn t, NamesTelnet l.text := by
  simp only [TelnetReported, reports_insecureServices_iff, mem_insecureServices_iff hjudged]
  constructor
  · rintro ⟨i, ⟨f, ⟨l, hl, hf⟩, rfl⟩, -, htitle, x, hx, hlocation⟩
    rcases hf with hf | hf
    · obtain ⟨hnames, rfl⟩ := mem_telnetFindings_iff.mp hf
      have hnumber : l.number = x.number := Line.locate_injective hlocation
      refine ⟨l, List.mem_filter.mpr ⟨hl, ?_⟩, hnames⟩
      rw [hnumber]
      exact (List.mem_filter.mp hx).2
    · unfold httpFindings at hf
      rw [List.mem_ite_nil_right, List.mem_singleton] at hf
      have htitles : ("HTTP server enabled" : Text) ≠ "Telnet enabled" := by decide
      rw [hf.2] at htitle
      exact absurd htitle htitles
  · rintro ⟨l, hl, hnames⟩
    have hfound := mem_telnetFindings_iff.mpr ⟨hnames, rfl⟩
    exact ⟨_, ⟨_, ⟨l, (List.mem_filter.mp hl).1, .inl hfound⟩, rfl⟩, rfl, rfl, l, hl, rfl⟩

/-- A phrase begins with the keywords of the directive and goes on behind one blank. -/
theorem namesTelnet_of_afterFirst {line rest : Text}
    (h : Text.afterFirst "transport input" line = some (' ' :: rest))
    (hprotocol : ("telnet" : Text) <+: rest ∨ ("all" : Text) <+: rest) : NamesTelnet line := by
  obtain ⟨before, rfl⟩ := Text.eq_append_of_afterFirst h
  rcases hprotocol with ⟨more, rfl⟩ | ⟨more, rfl⟩
  · exact .inl ⟨before, more, by simp⟩
  · exact .inr ⟨before, more, by simp⟩

/-- Telnet on a VTY line is reported exactly if a phrase stands in its block. It does if Telnet, or
everything, is the first protocol behind the keywords and one blank. -/
theorem telnetReported_of_vtyLine {p : Policy} (hjudged : p.skipCommentLines = false) (t : Text)
    {v : VtyLine} (hv : v ∈ (Inventory.ofText t).vtyLines) :
    ∃ b ∈ Block.all "line vty" t.lines, b.toVtyLine = v ∧
      (TelnetReported p t b ↔ ∃ l ∈ b.linesIn t, NamesTelnet l.text) ∧
      ∀ line rest : Text, b.last? isTransportLine = some line →
        Text.afterFirst "transport input" line = some (' ' :: rest) →
        v.transport = rest.words ∧
          (("telnet" : Text) <+: rest ∨ ("all" : Text) <+: rest → TelnetReported p t b) := by
  obtain ⟨b, hb, rfl⟩ := Inventory.mem_vtyLines_iff.mp hv
  have hreported := telnetReported_iff hjudged t b
  refine ⟨b, hb, rfl, hreported, fun line rest hline hrest => ⟨?_, fun hprotocol => ?_⟩⟩
  · have hblank : Text.words (' ' :: rest) = rest.words := rfl
    rw [Block.toVtyLine, hline, Option.map_some, Option.getD_some, protocolsOf, hrest,
      Option.getD_some, hblank]
  · obtain ⟨l, hl, rfl⟩ := Block.exists_mem_linesIn hb (Block.last?_eq_some hline).1
    exact hreported.mpr ⟨l, hl, namesTelnet_of_afterFirst hrest hprotocol⟩

theorem telnetReported_before_ssh :
    ({} : Policy).skipCommentLines = false ∧
    ∃ v ∈ (Inventory.ofText "line vty 0 4\n transport input telnet ssh").vtyLines,
      v.transport = ["telnet", "ssh"] ∧
      ∃ b, b.toVtyLine = v ∧
        TelnetReported {} "line vty 0 4\n transport input telnet ssh" b := by
  have hjudged : ({} : Policy).skipCommentLines = false := rfl
  have hinventory : (Inventory.ofText "line vty 0 4\n transport input telnet ssh").vtyLines =
    [{ range := "0 4", transport := ["telnet", "ssh"], lineNumber := 1 }] := by decide
  have hv := hinventory ▸ List.mem_cons_self
  obtain ⟨b, hb, hread, -, hfirst⟩ := telnetReported_of_vtyLine hjudged _ hv
  have hblocks : Block.all "line vty" (Text.lines "line vty 0 4\n transport input telnet ssh") =
    [⟨1, "0 4", ["transport input telnet ssh"]⟩] := rfl
  rw [hblocks, List.mem_singleton] at hb
  have hline : b.last? isTransportLine = some ("transport input telnet ssh" : Text) := by
    rw [hb]
    rfl
  refine ⟨hjudged, _, hv, rfl, b, hread, (hfirst _ "telnet ssh" hline rfl).2 (.inl ?_)⟩
  exact ⟨" ssh", rfl⟩

/-- Telnet goes unreported where another protocol is listed before it. -/
theorem telnet_unreported_behind_ssh :
    (∃ v ∈ (Inventory.ofText "line vty 0 4\n transport input ssh telnet").vtyLines,
      ("telnet" : Text) ∈ v.transport) ∧
    ¬∃ i, Reports "insecure_services" {} "line vty 0 4\n transport input ssh telnet" i := by
  have hnone : insecureServices {} (Line.ofText "line vty 0 4\n transport input ssh telnet") = [] := by
    decide
  refine ⟨by decide, ?_⟩
  rintro ⟨i, hi⟩
  obtain ⟨f, hf, -⟩ := (reports_insecureServices_iff _ _ i).mp hi
  rw [hnone] at hf
  cases hf

end ConfigAudit.Check
