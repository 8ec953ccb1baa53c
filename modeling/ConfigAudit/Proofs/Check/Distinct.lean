import ConfigAudit.Proofs.Check.Located
import Mathlib.Data.List.Nodup

/-! No check reports anything twice, and no two checks report the same. Each finding can be read off
its report, and the findings of a check are told apart by their lines or by what they are about. -/
namespace ConfigAudit

namespace Finding

theorem location_eq_locate_iff {f : Finding} {n : Int} :
    f.issue.location = Line.locate n ↔ f.line? = some n := by
  constructor
  · intro h
    cases f with
    | absent directive => exact absurd h (absent_location_ne directive n)
    | _ => exact congrArg some (Line.locate_injective h)
  · exact location_of_line?

theorem line?_eq_of_location_eq {f g : Finding} (h : f.issue.location = g.issue.location) :
    f.line? = g.line? :=
  Option.ext fun n => by rw [← location_eq_locate_iff, ← location_eq_locate_iff, h]

theorem title_opening {f : Finding} {topic : Topic} (h : f.topic? = some topic) :
    f.issue.title.take 4 = topic.opening := by
  cases f with
  | absent directive => cases h
  | _ =>
    rw [← Option.some.inj h]
    rfl

theorem topic?_eq_none_iff {f : Finding} : f.topic? = none ↔ f.line? = none := by
  cases f <;> simp [topic?, line?]

theorem topic?_eq_of_issue_eq {f g : Finding} (h : f.issue = g.issue) : f.topic? = g.topic? := by
  have hline := line?_eq_of_location_eq (congrArg Issue.location h)
  cases hf : f.topic? with
  | none =>
    rw [topic?_eq_none_iff, hline, ← topic?_eq_none_iff] at hf
    exact hf.symm
  | some topic =>
    cases hg : g.topic? with
    | none =>
      rw [topic?_eq_none_iff, ← hline, ← topic?_eq_none_iff, hf] at hg
      cases hg
    | some other =>
      have hopening : topic.opening = other.opening := by
        rw [← title_opening hf, ← title_opening hg, h]
      rw [Topic.opening_injective hopening]

/-- A report tells everything that a finding says. -/
theorem issue_injective : Function.Injective issue := by
  intro f g h
  have htopic := topic?_eq_of_issue_eq h
  have hline := line?_eq_of_location_eq (congrArg Issue.location h)
  have htitle := congrArg Issue.title h
  have hdescription := congrArg Issue.description h
  cases f with
  | weakCredential n credential =>
    cases g with
    | weakCredential m other =>
      obtain rfl := Option.some.inj hline
      rw [List.append_cancel_left (List.append_cancel_right htitle)]
    | _ => cases htopic
  | shortCredential n length =>
    cases g with
    | shortCredential m other =>
      obtain rfl := Option.some.inj hline
      rw [Text.ofNat_injective (List.append_cancel_left (List.append_cancel_right hdescription))]
    | _ => cases htopic
  | openVtyLine n range =>
    cases g with
    | openVtyLine m other =>
      obtain rfl := Option.some.inj hline
      rw [List.append_cancel_left (List.append_cancel_right hdescription)]
    | _ => cases htopic
  | openInterface n name =>
    cases g with
    | openInterface m other =>
      obtain rfl := Option.some.inj hline
      rw [List.append_cancel_left htitle]
    | _ => cases htopic
  | unusedInterface n name =>
    cases g with
    | unusedInterface m other =>
      obtain rfl := Option.some.inj hline
      rw [List.append_cancel_left htitle]
    | _ => cases htopic
  | plainEnablePassword n =>
    cases g with
    | plainEnablePassword m => rw [Option.some.inj hline]
    | _ => cases htopic
  | telnet n =>
    cases g with
    | telnet m => rw [Option.some.inj hline]
    | _ => cases htopic
  | httpServer n =>
    cases g with
    | httpServer m => rw [Option.some.inj hline]
    | _ => cases htopic
  | absent directive =>
    cases g with
    | absent other => rw [Check.absent_issue_injective h]
    | _ => cases htopic

/-- The name of the check that makes a finding. -/
def check : Finding → Text
  | weakCredential _ _ | shortCredential _ _ | plainEnablePassword _ => "weak_passwords"
  | telnet _ | httpServer _ => "insecure_services"
  | openVtyLine _ _ | openInterface _ _ => "missing_access_control"
  | unusedInterface _ _ => "unused_interfaces"
  | absent _ => "best_practices"

end Finding

namespace Check

/-- A check that makes findings of its own, each of them once. -/
structure Distinct (name : Text) (findings : Policy → Document → List Finding) : Prop where
  nodup : ∀ p t, (findings p (.ofText t)).Nodup
  check : ∀ p t, ∀ f ∈ findings p (.ofText t), f.check = name

section Lines

variable {p : Policy} {onLine : Line → List Finding}

/-- Findings on different lines differ, so those on a single line are all there is to compare. -/
theorem nodup_of_lines (hline : ∀ l, ∀ f ∈ onLine l, f.line? = some l.number)
    (hnodup : ∀ l, (onLine l).Nodup) (t : Text) :
    ((judged p (Line.ofText t)).flatMap onLine).Nodup := by
  have hlines : (judged p (Line.ofText t)).Pairwise (·.number < ·.number) :=
    (Line.pairwise_number_numberFrom 1 t.lines).filter _
  refine List.nodup_flatMap.mpr ⟨fun l _ => hnodup l, hlines.imp fun {l m} hlt f hl hm => ?_⟩
  have hnumber := Option.some.inj ((hline l f hl).symm.trans (hline m f hm))
  omega

end Lines

section Blocks

variable {α : Type} {keywords : Text} {record : Block → α} {finding : α → Finding}

theorem nodup_of_blocks (hfound : ∀ b, (finding (record b)).line? = some b.lineNumber)
    (q : α → Bool) (t : Text) :
    ((((Block.all keywords t.lines).map record).filter q).map finding).Nodup := by
  have hblocks := Block.pairwise_lineNumber_allFrom keywords 1 t.lines
  rw [← Block.all_eq_allFrom] at hblocks
  refine List.pairwise_map.mpr (List.Pairwise.filter q (List.pairwise_map.mpr ?_))
  refine hblocks.imp fun {b c} hlt heq => ?_
  have hnumber := (hfound b).symm.trans ((congrArg Finding.line? heq).trans (hfound c))
  have hnumber := Option.some.inj hnumber
  omega

end Blocks

theorem eq_of_mem_ite {c : Prop} [Decidable c] {f g : Finding} (hf : f ∈ if c then [g] else []) :
    f = g :=
  List.mem_singleton.mp (List.mem_ite_nil_right.mp hf).2

theorem check_of_mem_credentialFindings {p : Policy} {l : Line} {f : Finding}
    (hf : f ∈ credentialFindings p l) : f.check = "weak_passwords" := by
  unfold credentialFindings at hf
  rcases List.mem_append.mp (List.mem_ite_nil_right.mp hf).2 with hf | hf
  · obtain rfl := eq_of_mem_ite hf
    rfl
  · obtain rfl := eq_of_mem_ite hf
    rfl

theorem weakPasswords_distinct : Distinct "weak_passwords" fun p d => weakPasswords p d.lines where
  nodup p t := by
    refine nodup_of_lines (fun l f hf => ?_) (fun l => ?_) t
    · rcases List.mem_append.mp hf with hf | hf
      · exact line?_of_mem_credentialFindings hf
      · exact line?_of_mem_ite hf rfl
    · unfold credentialFindings enablePasswordFindings
      dsimp only
      split_ifs <;> simp
  check p t f hf := by
    obtain ⟨l, -, hf⟩ := List.mem_flatMap.mp hf
    rcases List.mem_append.mp hf with hf | hf
    · exact check_of_mem_credentialFindings hf
    · obtain rfl := eq_of_mem_ite hf
      rfl

theorem insecureServices_distinct :
    Distinct "insecure_services" fun p d => insecureServices p d.lines where
  nodup p t := by
    refine nodup_of_lines (fun l f hf => ?_) (fun l => ?_) t
    · rcases List.mem_append.mp hf with hf | hf
      · exact line?_of_mem_ite hf rfl
      · exact line?_of_mem_ite hf rfl
    · unfold telnetFindings httpFindings
      split_ifs <;> simp
  check p t f hf := by
    obtain ⟨l, -, hf⟩ := List.mem_flatMap.mp hf
    rcases List.mem_append.mp hf with hf | hf
    · obtain rfl := eq_of_mem_ite hf
      rfl
    · obtain rfl := eq_of_mem_ite hf
      rfl

theorem missingAccessControl_distinct :
    Distinct "missing_access_control" fun _ d => missingAccessControl d.inventory where
  nodup _ t := by
    show (missingAccessControl (Inventory.ofText t)).Nodup
    rw [missingAccessControl, Inventory.ofText_eq_allFrom, ← Block.all_eq_allFrom,
      ← Block.all_eq_allFrom]
    refine List.nodup_append.mpr ⟨nodup_of_blocks (fun _ => rfl) _ t,
      nodup_of_blocks (fun _ => rfl) _ t, fun f hf g hg heq => ?_⟩
    obtain ⟨v, -, rfl⟩ := List.mem_map.mp hf
    obtain ⟨i, -, rfl⟩ := List.mem_map.mp hg
    cases heq
  check _ t f hf := by
    rcases List.mem_append.mp hf with hf | hf
    · obtain ⟨v, -, rfl⟩ := List.mem_map.mp hf
      rfl
    · obtain ⟨i, -, rfl⟩ := List.mem_map.mp hf
      rfl

theorem unusedInterfaces_distinct :
    Distinct "unused_interfaces" fun _ d => unusedInterfaces d.inventory where
  nodup _ t := by
    show (unusedInterfaces (Inventory.ofText t)).Nodup
    rw [unusedInterfaces, Inventory.ofText_eq_allFrom, ← Block.all_eq_allFrom]
    exact nodup_of_blocks (fun _ => rfl) _ t
  check _ t f hf := by
    obtain ⟨i, -, rfl⟩ := List.mem_map.mp hf
    rfl

theorem requiredDirectives_nodup (p : Policy) : (requiredDirectives p).Nodup := by
  unfold requiredDirectives
  split_ifs <;> decide

theorem bestPractices_distinct : Distinct "best_practices" fun p d => bestPractices p d.lines where
  nodup p t := by
    show (bestPractices p (Line.ofText t)).Nodup
    rw [bestPractices]
    split_ifs
    · exact List.nodup_nil
    · exact ((requiredDirectives_nodup p).filter _).map fun _ _ => Finding.absent.inj
  check p t f hf := by
    obtain ⟨-, d, -, -, rfl⟩ := mem_bestPractices_iff.mp hf
    rfl

/-- All built-in checks, by what they find. -/
theorem exists_distinct {c : Check} (hc : c ∈ standard) :
    ∃ category findings, Distinct c.name findings ∧ c = ofFindings c.name category findings := by
  simp only [standard, List.mem_cons, List.not_mem_nil, or_false] at hc
  rcases hc with rfl | rfl | rfl | rfl | rfl
  · exact ⟨_, _, weakPasswords_distinct, rfl⟩
  · exact ⟨_, _, insecureServices_distinct, rfl⟩
  · exact ⟨_, _, missingAccessControl_distinct, rfl⟩
  · exact ⟨_, _, unusedInterfaces_distinct, rfl⟩
  · exact ⟨_, _, bestPractices_distinct, rfl⟩

theorem exists_finding_of_mem_runAll {checks : List Check} (hchecks : ∀ c ∈ checks, c ∈ standard)
    {p : Policy} {d : Document} {i : Issue} (hi : i ∈ runAll checks p d) :
    ∃ f : Finding, f.issue = i := by
  obtain ⟨c, hc, hi⟩ := List.mem_flatMap.mp hi
  obtain ⟨_, findings, -, heq⟩ := exists_distinct (hchecks c hc)
  rw [heq] at hi
  obtain ⟨f, -, hissue⟩ := List.mem_map.mp hi
  exact ⟨f, hissue⟩

theorem standard_names_nodup : (standard.map (·.name)).Nodup := by decide

/-- Different built-in checks, in whatever order they are run, report nothing twice. -/
theorem runAll_nodup {checks : List Check} (hchecks : ∀ c ∈ checks, c ∈ standard)
    (hnames : (checks.map (·.name)).Nodup) (p : Policy) (t : Text) :
    (runAll checks p (.ofText t)).Nodup := by
  refine List.nodup_flatMap.mpr ⟨fun c hc => ?_, ?_⟩
  · obtain ⟨category, findings, hdistinct, heq⟩ := exists_distinct (hchecks c hc)
    rw [heq]
    exact (hdistinct.nodup p t).map Finding.issue_injective
  · refine (List.pairwise_map.mp hnames).imp_of_mem fun {c e} hc he hne i hi hj => ?_
    obtain ⟨_, findings, hdistinct, hcheck⟩ := exists_distinct (hchecks c hc)
    obtain ⟨_, others, hdistinct', hcheck'⟩ := exists_distinct (hchecks e he)
    rw [hcheck] at hi
    rw [hcheck'] at hj
    obtain ⟨f, hf, rfl⟩ := List.mem_map.mp hi
    obtain ⟨g, hg, hissue⟩ := List.mem_map.mp hj
    obtain rfl := Finding.issue_injective hissue
    exact hne ((hdistinct.check p t _ hf).symm.trans (hdistinct'.check p t _ hg))

end Check
end ConfigAudit
