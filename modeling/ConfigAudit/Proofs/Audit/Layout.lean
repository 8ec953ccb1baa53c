import ConfigAudit.Audit.Result
import ConfigAudit.Proofs.Check.Layout
import ConfigAudit.Proofs.Device.Layout
import Mathlib.Data.List.Forall2

/-! Layout does not change an audit: blanks around lines change nothing, and blank lines change
nothing but the numbers of the lines behind them. -/
namespace ConfigAudit

theorem SeverityCounts.ofIssues_relocated {g : Int → Int} {l m : List Issue}
    (h : List.Forall₂ (Issue.Relocated g) l m) : ofIssues m = ofIssues l := by
  have hseverities : m.map (·.severity) = l.map (·.severity) := by
    induction h with
    | nil => rfl
    | cons hi _ ih => rw [List.map_cons, List.map_cons, hi.severity, ih]
  rw [ofIssues, hseverities, ofIssues]

/-- A result that reads like another one, with its issues on lines whose numbers are mapped. -/
structure AuditResult.Relocated (g : Int → Int) (r q : AuditResult) : Prop where
  issues : List.Forall₂ (Issue.Relocated g) r.issues q.issues
  totalIssues : q.totalIssues = r.totalIssues
  counts : q.counts = r.counts
  securityScore : q.securityScore = r.securityScore
  recommendations : q.recommendations = r.recommendations
  passwordAnalysis : q.passwordAnalysis = r.passwordAnalysis
  configSummary : q.configSummary = r.configSummary

namespace Check

/-- The built-in checks find the same on lines that differ in empty ones and in numbers only. -/
theorem runAll_relocated {checks : List Check} (hchecks : ∀ c ∈ checks, c ∈ standard) (p : Policy)
    {g : Int → Int} {t u : Text}
    (hlines : Line.significant (Line.ofText u) =
      (Line.significant (Line.ofText t)).map (·.mapNumber g)) :
    List.Forall₂ (Issue.Relocated g) (runAll checks p (.ofText t))
      (runAll checks p (.ofText u)) := by
  induction checks with
  | nil => exact .nil
  | cons c others ih =>
    obtain ⟨hc, hothers⟩ := List.forall_mem_cons.mp hchecks
    obtain ⟨name, category, findings, hignores, rfl⟩ := exists_ignoresLayout hc
    have hhead : List.Forall₂ (Issue.Relocated g) ((findings p (.ofText t)).map Finding.issue)
        ((findings p (.ofText u)).map Finding.issue) := by
      rw [hignores.ofText_eq p hlines, List.map_map, List.forall₂_map_left_iff,
        List.forall₂_map_right_iff]
      exact List.forall₂_same.mpr fun f _ => f.relocated_mapLine g
    exact List.rel_append hhead (ih hothers)

end Check

theorem Password.analyze_location {p : Policy} {password : Option Text} {i : Issue}
    (hi : i ∈ (analyze p password).issues) : i.location = "Router Authentication" := by
  have hfinding : ∃ f : PasswordFinding, i = f.issue := by
    simp only [analyze] at hi
    split_ifs at hi
    · exact ⟨_, List.mem_singleton.mp hi⟩
    · exact ⟨_, List.mem_singleton.mp hi⟩
    · obtain ⟨f, -, rfl⟩ := List.mem_map.mp hi
      exact ⟨f, rfl⟩
  obtain ⟨f, rfl⟩ := hfinding
  rfl

namespace Auditor

/-- No finding on a password is on a line. -/
theorem passwordIssues_relocated (a : Auditor) (g : Int → Int) (password : Option Text) :
    List.Forall₂ (Issue.Relocated g) (a.analyzePassword password).issues
      (a.analyzePassword password).issues := by
  refine List.forall₂_same.mpr fun i hi => Issue.relocated_self g fun n => ?_
  rw [Password.analyze_location hi]
  exact Line.ne_locate (Text.head?_ofList ..) (by decide) n

theorem analyze_relocated {a : Auditor} (hchecks : ∀ c ∈ a.checks, c ∈ Check.standard)
    {g : Int → Int} {t u : Text}
    (hlines : Line.significant (Line.ofText u) =
      (Line.significant (Line.ofText t)).map (·.mapNumber g))
    (hinventory : Inventory.ofText u = (Inventory.ofText t).mapNumber g)
    (password : Option Text) :
    (a.analyze t password).Relocated g (a.analyze u password) := by
  have hissues : List.Forall₂ (Issue.Relocated g) (a.analyze t password).issues
      (a.analyze u password).issues := by
    refine List.rel_append (Check.runAll_relocated hchecks a.policy hlines) ?_
    cases password.filter (· ≠ []) with
    | none => exact .nil
    | some given => exact a.passwordIssues_relocated g given
  have hcounts := SeverityCounts.ofIssues_relocated hissues
  have hscore : (a.analyze u password).securityScore = (a.analyze t password).securityScore :=
    congrArg (score _) hcounts
  have hsummary : (Inventory.ofText u).summary = (Inventory.ofText t).summary := by
    rw [hinventory]
    simp only [Inventory.summary, Inventory.mapNumber, List.length_map]
  exact {
    issues := hissues
    totalIssues := congrArg SeverityCounts.total hcounts
    counts := hcounts
    securityScore := hscore
    recommendations :=
      congrArg (List.map Advice.text) (congrArg₂ Advice.given hcounts hscore)
    passwordAnalysis := rfl
    configSummary := hsummary }

/-- Blanks around the lines of a text change nothing in its audit, whatever the checks are. Blank
lines in front of line `k` change nothing in the audit by the built-in checks but the numbers of
the lines from `k` on. -/
theorem analyze_layout (a : Auditor) (t : Text) (password : Option Text) :
    (∀ before after : Nat → Text, (∀ i, (before i).IsMargin) → (∀ i, (after i).IsMargin) →
      a.analyze (t.framed before after) password = a.analyze t password) ∧
    ((∀ c ∈ a.checks, c ∈ Check.standard) →
      ∀ (k : Nat) (extra : List Text), (∀ line ∈ extra, line.IsMargin) →
        (a.analyze t password).Relocated (Line.shiftFrom k extra.length)
          (a.analyze (t.insertLines k extra) password)) := by
  constructor
  · intro before after hbefore hafter
    have hlines := Text.lines_framed hbefore hafter t
    have hdocument : Document.ofText (t.framed before after) = Document.ofText t := by
      rw [Document.ofText_eq, Document.ofText_eq, Line.ofText_eq, Line.ofText_eq, hlines]
    simp only [analyze, Option.getD_some, hdocument]
  · intro hchecks k extra hextra
    exact analyze_relocated hchecks (Line.significant_ofText_insertLines hextra k t)
      (Inventory.ofText_insertLines hextra k t) password

theorem analyze_layout_vtyLine :
    Text.framed (fun _ => " ") (fun _ => "\r") "line vty 0 4\nlogin" =
      " line vty 0 4\r\n login\r" ∧
    ({} : Auditor).analyze (Text.framed (fun _ => " ") (fun _ => "\r") "line vty 0 4\nlogin")
      none = ({} : Auditor).analyze "line vty 0 4\nlogin" none ∧
    Text.insertLines 1 ["", "\t"] "line vty 0 4\nlogin" = "\n\t\nline vty 0 4\nlogin" ∧
    (({} : Auditor).analyze "line vty 0 4\nlogin" none).Relocated (Line.shiftFrom 1 2)
      (({} : Auditor).analyze (Text.insertLines 1 ["", "\t"] "line vty 0 4\nlogin") none) := by
  have hlayout := analyze_layout {} "line vty 0 4\nlogin" none
  refine ⟨by decide, hlayout.1 _ _ (fun _ => by decide) (fun _ => by decide), by decide, ?_⟩
  exact hlayout.2 (fun _ hc => hc) 1 ["", "\t"] (by decide)

end Auditor
end ConfigAudit
