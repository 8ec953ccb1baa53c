import ConfigAudit.Proofs.Check.Absence
import ConfigAudit.Proofs.Device.Position

/-! SSH on VTY lines. The reader takes a `transport input` directive apart into protocols, while the
check searches the configuration for a phrase, so SSH that the reader finds counts as absent unless
the phrase stands on some line. -/
namespace ConfigAudit

namespace Block

variable {b : Block}

theorem mem_lines_of_mem_body {keywords : Text} {lines : List Text} (hb : b ∈ all keywords lines)
    {line : Text} (hline : line ∈ b.body) : line ∈ lines := by
  have hbody : b.body <+: lines.drop b.lineNumber := body_prefix hb
  exact List.mem_of_mem_drop (hbody.subset hline)

/-- A protocol of a VTY line is a word behind the keywords on a line of its block. -/
theorem exists_transportLine {protocol : Text} (h : protocol ∈ b.toVtyLine.transport) :
    ∃ line ∈ b.body, ∃ rest, Text.afterFirst "transport input" line = some rest ∧
      b.toVtyLine.transport = rest.words := by
  cases hlast : b.last? isTransportLine with
  | none =>
    rw [toVtyLine, hlast] at h
    cases h
  | some line =>
    obtain ⟨hline, hdirective⟩ := last?_eq_some hlast
    rw [isTransportLine, Bool.and_eq_true, Text.includes] at hdirective
    obtain ⟨rest, hrest⟩ := Option.isSome_iff_exists.mp hdirective.2
    refine ⟨line, hline, rest, hrest, ?_⟩
    rw [toVtyLine, hlast, Option.map_some, Option.getD_some, protocolsOf, hrest, Option.getD_some]

end Block

namespace Check

theorem ssh_mem_requiredDirectives (p : Policy) : .ssh ∈ requiredDirectives p := by
  unfold requiredDirectives
  split_ifs <;> exact List.mem_cons_self

theorem absenceReported_ssh_iff {t : Text} (ht : t.strip ≠ []) (p : Policy) :
    AbsenceReported p t .ssh ↔ Hardening.ssh.AbsentFrom t := by
  rw [AbsenceReported, reports_iff_mem_issues?, issues?_bestPractices, if_neg ht]
  simp only [Option.some.injEq, exists_eq_left', mem_absences_iff, ssh_mem_requiredDirectives,
    true_and]

theorem strip_ne_nil_of_transportLine {t line rest : Text} (hline : line ∈ t.lines)
    (hrest : Text.afterFirst "transport input" line = some rest) : t.strip ≠ [] := by
  intro hblank
  rw [Text.strip_eq_nil_iff_lines.mp hblank line hline] at hrest
  cases hrest

/-- SSH in front of all other protocols makes the phrase, if one blank stands between. -/
theorem mentionedOn_of_afterFirst {line rest : Text}
    (h : Text.afterFirst "transport input" line = some rest) (hssh : (" ssh" : Text) <+: rest) :
    Hardening.ssh.MentionedOn line := by
  have hphrase : Hardening.ssh.pattern = ("transport input" : Text) ++ (" ssh" : Text) := by decide
  obtain ⟨before, rfl⟩ := Text.eq_append_of_afterFirst h
  obtain ⟨more, rfl⟩ := hssh
  rw [Hardening.MentionedOn, hphrase]
  exact ⟨before, more, by simp only [List.append_assoc]⟩

/-- Where the reader finds SSH on a VTY line, its absence is reported exactly if no line has the
phrase. It is not reported if SSH is the first protocol behind the keywords and one blank. -/
theorem sshAbsence_of_vtyLine (p : Policy) (t : Text) {v : VtyLine}
    (hv : v ∈ (Inventory.ofText t).vtyLines) (hssh : ("ssh" : Text) ∈ v.transport) :
    (AbsenceReported p t .ssh ↔ ∀ line ∈ t.lines, ¬("transport input ssh" : Text) <:+: line) ∧
    ∃ b ∈ Block.all "line vty" t.lines, b.toVtyLine = v ∧
      ∃ line ∈ b.body, ∃ rest, Text.afterFirst "transport input" line = some rest ∧
        v.transport = rest.words ∧ ((" ssh" : Text) <+: rest → ¬AbsenceReported p t .ssh) := by
  obtain ⟨b, hb, rfl⟩ := Inventory.mem_vtyLines_iff.mp hv
  obtain ⟨line, hbody, rest, hrest, htransport⟩ := Block.exists_transportLine hssh
  have hline : line ∈ t.lines := Block.mem_lines_of_mem_body hb hbody
  have hreported := absenceReported_ssh_iff (strip_ne_nil_of_transportLine hline hrest) p
  refine ⟨hreported, b, hb, rfl, line, hbody, rest, hrest, htransport, fun hfirst habsent => ?_⟩
  exact hreported.mp habsent line hline (mentionedOn_of_afterFirst hrest hfirst)

/-- SSH listed first, and SSH listed second. -/
def sshFirst : Text := "line vty 0 4\n transport input ssh telnet"

def sshSecond : Text := "line vty 0 4\n transport input telnet ssh"

theorem sshAbsence_of_vtyLine_first :
    ∃ v ∈ (Inventory.ofText sshFirst).vtyLines, ("ssh" : Text) ∈ v.transport ∧
      ¬AbsenceReported {} sshFirst .ssh := by
  have hinventory : (Inventory.ofText sshFirst).vtyLines =
    [{ range := "0 4", transport := ["ssh", "telnet"], lineNumber := 1 }] := by decide
  have hv := hinventory ▸ List.mem_cons_self
  refine ⟨_, hv, List.mem_cons_self, fun habsent => ?_⟩
  obtain ⟨hreported, -⟩ := sshAbsence_of_vtyLine {} sshFirst hv List.mem_cons_self
  exact absurd (hreported.mp habsent) (by decide)

/-- SSH behind another protocol is reported as absent. -/
theorem sshAbsence_behind_telnet :
    (∃ v ∈ (Inventory.ofText sshSecond).vtyLines, ("ssh" : Text) ∈ v.transport) ∧
    AbsenceReported {} sshSecond .ssh := by
  refine ⟨by decide, ?_⟩
  rw [absenceReported_ssh_iff (by decide)]
  decide

end Check
end ConfigAudit
