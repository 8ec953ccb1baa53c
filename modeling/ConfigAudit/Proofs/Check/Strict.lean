import ConfigAudit.Proofs.Check.Lenient
import ConfigAudit.Proofs.Password.Strict

/-! Checks under a stricter policy whose switches are set alike. More credentials count as weak or as
too short, and all other findings are the same. -/
namespace ConfigAudit

/-- Two policies do not differ in a switch. -/
structure Policy.SameSwitches (p q : Policy) : Prop where
  weakPasswordCaseSensitive : p.weakPasswordCaseSensitive = q.weakPasswordCaseSensitive
  extendedBestPractices : p.extendedBestPractices = q.extendedBestPractices
  keywordCredentials : p.keywordCredentials = q.keywordCredentials
  skipCommentLines : p.skipCommentLines = q.skipCommentLines

theorem Policy.TightenedTo.isWeakPassword {p q : Policy} (h : p.TightenedTo q) {c : Text}
    {caseSensitive : Bool} (hc : p.isWeakPassword c caseSensitive = true) :
    q.isWeakPassword c caseSensitive = true := by
  cases caseSensitive with
  | false =>
    rw [Password.isWeakPassword_iff] at hc ⊢
    exact Password.inDictionary_tightened h hc
  | true =>
    simp only [Policy.isWeakPassword, if_true, List.contains_iff_mem] at hc ⊢
    exact h.weakPasswords hc

namespace Check

theorem judged_of_sameSwitches {p q : Policy} (hs : p.SameSwitches q) : judged p = judged q := by
  funext lines
  rw [judged, judged, hs.skipCommentLines]

section Tightened

variable {p q : Policy} (h : p.TightenedTo q) (hs : p.SameSwitches q)
include h hs

theorem credentialFindings_tightened (l : Line) :
    (credentialFindings p l).Sublist (credentialFindings q l) := by
  unfold credentialFindings
  rw [hs.keywordCredentials, hs.weakPasswordCaseSensitive]
  refine ite_sublist_ite id ((ite_sublist_ite h.isWeakPassword (List.Sublist.refl _)).append ?_)
  exact ite_sublist_ite (fun hshort => Int.lt_of_lt_of_le hshort h.minPasswordLength)
    (List.Sublist.refl _)

theorem run_tightened {c : Check} (hc : c ∈ standard) (d : Document) :
    ((c.run p d).getD []).Sublist ((c.run q d).getD []) := by
  simp only [standard, List.mem_cons, List.not_mem_nil, or_false] at hc
  rcases hc with rfl | rfl | rfl | rfl | rfl
  · show ((weakPasswords p d.lines).map Finding.issue).Sublist
      ((weakPasswords q d.lines).map Finding.issue)
    rw [weakPasswords, weakPasswords, judged_of_sameSwitches hs]
    exact (List.Sublist.flatMap_right _ fun l _ =>
      (credentialFindings_tightened h hs l).append (List.Sublist.refl _)).map _
  · show ((insecureServices p d.lines).map Finding.issue).Sublist
      ((insecureServices q d.lines).map Finding.issue)
    rw [insecureServices, insecureServices, judged_of_sameSwitches hs]
  · exact List.Sublist.refl _
  · exact List.Sublist.refl _
  · show ((bestPractices p d.lines).map Finding.issue).Sublist
      ((bestPractices q d.lines).map Finding.issue)
    rw [bestPractices, bestPractices, requiredDirectives, requiredDirectives,
      hs.extendedBestPractices]

theorem runAll_tightened {checks : List Check} (hchecks : ∀ c ∈ checks, c ∈ standard)
    (d : Document) : (runAll checks p d).Sublist (runAll checks q d) :=
  List.Sublist.flatMap_right _ fun c hc => run_tightened h hs (hchecks c hc) d

end Tightened

/-- On the empty text there is nothing to find. -/
theorem runAll_standard_nil (p : Policy) : runAll standard p (.ofText []) = [] := by
  have hdocument : Document.ofText [] = ⟨[⟨1, []⟩], {}⟩ := rfl
  have hjudged (onLine : Line → List Finding) (hempty : onLine ⟨1, []⟩ = []) :
      (judged p [⟨1, []⟩]).flatMap onLine = [] := by
    rw [List.flatMap_eq_nil_iff]
    intro l hl
    rw [List.mem_singleton.mp (List.mem_of_mem_filter hl), hempty]
  have hweak : weakPasswords p [⟨1, []⟩] = [] := hjudged _ rfl
  have hservices : insecureServices p [⟨1, []⟩] = [] := hjudged _ rfl
  rw [runAll, List.flatMap_eq_nil_iff, hdocument]
  intro c hc
  simp only [standard, List.mem_cons, List.not_mem_nil, or_false] at hc
  rcases hc with rfl | rfl | rfl | rfl | rfl
  · simp only [ofFindings, hweak, List.map_nil, Option.getD_some]
  · simp only [ofFindings, hservices, List.map_nil, Option.getD_some]
  · rfl
  · rfl
  · rfl

end Check
end ConfigAudit
