import ConfigAudit.Check.Basic
import ConfigAudit.Proofs.Check.Hardening
import ConfigAudit.Proofs.Device.Renumbered
import ConfigAudit.Proofs.Finding.Relocated

/-! Checks and layout. Every built-in check takes line numbers as they come and finds nothing on an
empty line, so where a configuration has its empty lines decides on numbers only. -/
namespace ConfigAudit

def Document.ofLines (lines : List Line) : Document := ⟨lines, .ofLines lines⟩

theorem Document.ofText_eq (t : Text) : ofText t = ofLines (Line.ofText t) := rfl

namespace Check

/-- Numbers are taken over, and empty lines are passed over. -/
structure IgnoresLayout (findings : Policy → Document → List Finding) : Prop where
  mapNumber : ∀ g p lines, findings p (.ofLines (lines.map (·.mapNumber g))) =
    (findings p (.ofLines lines)).map (·.mapLine g)
  significant : ∀ p lines,
    findings p (.ofLines (Line.significant lines)) = findings p (.ofLines lines)

/-- Two texts with the same lines but for empty ones and for the numbers. -/
theorem IgnoresLayout.ofText_eq {findings : Policy → Document → List Finding}
    (h : IgnoresLayout findings) (p : Policy) {g : Int → Int} {t u : Text}
    (hlines : Line.significant (Line.ofText u) =
      (Line.significant (Line.ofText t)).map (·.mapNumber g)) :
    findings p (.ofText u) = (findings p (.ofText t)).map (·.mapLine g) := by
  rw [Document.ofText_eq, Document.ofText_eq, ← h.significant, hlines, h.mapNumber, h.significant]

theorem judged_map_mapNumber (g : Int → Int) (p : Policy) (lines : List Line) :
    judged p (lines.map (·.mapNumber g)) = (judged p lines).map (·.mapNumber g) := by
  rw [judged, List.filter_map]
  rfl

theorem judged_significant (p : Policy) (lines : List Line) :
    judged p (Line.significant lines) = Line.significant (judged p lines) := by
  simp only [judged, Line.significant, List.filter_filter, Bool.and_comm]

theorem flatMap_significant {α : Type} {f : Line → List α} (hempty : ∀ l, l.text = [] → f l = [])
    (lines : List Line) : (Line.significant lines).flatMap f = lines.flatMap f := by
  induction lines with
  | nil => rfl
  | cons l r ih =>
    rw [Line.significant, List.filter_cons, List.flatMap_cons, ← ih]
    by_cases hl : l.text = []
    · rw [hempty l hl, if_neg (by simpa using hl), Line.significant, List.nil_append]
    · rw [if_pos (by simpa using hl), List.flatMap_cons, Line.significant]

/-- What holds of the findings on each line makes the check of all lines ignore the layout. -/
theorem ignoresLayout_of_lines (onLine : Policy → Line → List Finding)
    (hmap : ∀ g p l, onLine p (l.mapNumber g) = (onLine p l).map (·.mapLine g))
    (hempty : ∀ p l, l.text = [] → onLine p l = []) :
    IgnoresLayout fun p d => (judged p d.lines).flatMap (onLine p) where
  mapNumber g p lines := by
    simp only [Document.ofLines, judged_map_mapNumber, List.flatMap_map, List.map_flatMap]
    exact List.flatMap_congr fun l _ => hmap g p l
  significant p lines := by
    simp only [Document.ofLines, judged_significant, flatMap_significant (hempty p)]

theorem credentialFindings_mapNumber (g : Int → Int) (p : Policy) (l : Line) :
    credentialFindings p (l.mapNumber g) = (credentialFindings p l).map (·.mapLine g) := by
  unfold credentialFindings Line.mapNumber
  dsimp only
  split_ifs <;> rfl

theorem enablePasswordFindings_mapNumber (g : Int → Int) (l : Line) :
    enablePasswordFindings (l.mapNumber g) = (enablePasswordFindings l).map (·.mapLine g) := by
  unfold enablePasswordFindings Line.mapNumber
  split_ifs <;> rfl

theorem telnetFindings_mapNumber (g : Int → Int) (l : Line) :
    telnetFindings (l.mapNumber g) = (telnetFindings l).map (·.mapLine g) := by
  unfold telnetFindings Line.mapNumber
  split_ifs <;> rfl

theorem httpFindings_mapNumber (g : Int → Int) (l : Line) :
    httpFindings (l.mapNumber g) = (httpFindings l).map (·.mapLine g) := by
  unfold httpFindings Line.mapNumber
  split_ifs <;> rfl

theorem weakPasswords_ignoresLayout : IgnoresLayout fun p d => weakPasswords p d.lines := by
  apply ignoresLayout_of_lines fun p l => credentialFindings p l ++ enablePasswordFindings l
  case hmap =>
    intro g p l
    rw [List.map_append, credentialFindings_mapNumber, enablePasswordFindings_mapNumber]
  case hempty =>
    rintro p ⟨number, text⟩ rfl
    rfl

theorem insecureServices_ignoresLayout : IgnoresLayout fun p d => insecureServices p d.lines := by
  apply ignoresLayout_of_lines fun _ l => telnetFindings l ++ httpFindings l
  case hmap =>
    intro g p l
    rw [List.map_append, telnetFindings_mapNumber, httpFindings_mapNumber]
  case hempty =>
    rintro p ⟨number, text⟩ rfl
    rfl

theorem missingAccessControl_mapNumber (g : Int → Int) (i : Inventory) :
    missingAccessControl (i.mapNumber g) = (missingAccessControl i).map (·.mapLine g) := by
  unfold missingAccessControl Inventory.mapNumber
  rw [List.filter_map, List.filter_map, List.map_append, List.map_map, List.map_map, List.map_map,
    List.map_map]
  rfl

theorem unusedInterfaces_mapNumber (g : Int → Int) (i : Inventory) :
    unusedInterfaces (i.mapNumber g) = (unusedInterfaces i).map (·.mapLine g) := by
  unfold unusedInterfaces Inventory.mapNumber
  rw [List.filter_map, List.map_map, List.map_map]
  rfl

/-- What holds of the findings on an inventory makes the check ignore the layout. -/
theorem ignoresLayout_of_inventory {onInventory : Inventory → List Finding}
    (hmap : ∀ g i, onInventory (i.mapNumber g) = (onInventory i).map (·.mapLine g)) :
    IgnoresLayout fun _ d => onInventory d.inventory where
  mapNumber g _ lines := by
    have hread := Inventory.readFrom_map_mapNumber g .outside lines
    simp only [Document.ofLines, Inventory.ofLines, ← hmap, ← hread]
    rfl
  significant _ lines := by
    simp only [Document.ofLines, Inventory.ofLines, Inventory.readFrom_significant]

theorem missingAccessControl_ignoresLayout :
    IgnoresLayout fun _ d => missingAccessControl d.inventory :=
  ignoresLayout_of_inventory missingAccessControl_mapNumber

theorem unusedInterfaces_ignoresLayout : IgnoresLayout fun _ d => unusedInterfaces d.inventory :=
  ignoresLayout_of_inventory unusedInterfaces_mapNumber

theorem bestPractices_ignoresLayout : IgnoresLayout fun p d => bestPractices p d.lines where
  mapNumber g p lines := by
    have htexts : (lines.map (·.mapNumber g)).map (·.text) = lines.map (·.text) := by
      rw [List.map_map]
      rfl
    have hglobal : ∀ f ∈ bestPractices p lines, f.mapLine g = f := by
      intro f hf
      obtain ⟨-, d, -, -, rfl⟩ := mem_bestPractices_iff.mp hf
      rfl
    simp only [Document.ofLines, List.map_congr_left hglobal, List.map_id']
    rw [bestPractices, htexts, bestPractices]
  significant p lines := by
    have hblank := Line.forall_mem_significant_iff (q := (·.strip = [])) rfl lines
    have hnone (d : Hardening) :=
      Line.forall_mem_significant_iff (q := (¬d.MentionedOn ·)) d.not_mentionedOn_nil lines
    simp only [Document.ofLines, bestPractices_eq, hblank, hnone]

/-- All built-in checks, by what they find. -/
theorem exists_ignoresLayout {c : Check} (hc : c ∈ standard) :
    ∃ name category findings, IgnoresLayout findings ∧ c = ofFindings name category findings := by
  simp only [standard, List.mem_cons, List.not_mem_nil, or_false] at hc
  rcases hc with rfl | rfl | rfl | rfl | rfl
  · exact ⟨_, _, _, weakPasswords_ignoresLayout, rfl⟩
  · exact ⟨_, _, _, insecureServices_ignoresLayout, rfl⟩
  · exact ⟨_, _, _, missingAccessControl_ignoresLayout, rfl⟩
  · exact ⟨_, _, _, unusedInterfaces_ignoresLayout, rfl⟩
  · exact ⟨_, _, _, bestPractices_ignoresLayout, rfl⟩

end Check
end ConfigAudit
