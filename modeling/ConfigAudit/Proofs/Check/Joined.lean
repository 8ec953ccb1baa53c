import ConfigAudit.Proofs.Check.Layout
import ConfigAudit.Proofs.Device.Joined
import Mathlib.Data.List.Perm.Basic

/-! Checks that judge a configuration line by line or block by block. On two joined configurations
they find what they find on the parts, with the lines of the second part moved down. -/
namespace ConfigAudit.Check

/-- The order of the findings on the whole may mix those on the parts. -/
structure Modular (findings : Policy → Document → List Finding) : Prop where
  joined : ∀ p a b, (findings p (.ofText (Text.joined a b))).Perm
    (findings p (.ofText a) ++ (findings p (.ofText b)).map (·.moveBy a.offset))
  line_nonneg : ∀ p t, ∀ f ∈ findings p (.ofText t), ∀ n ∈ f.line?, 0 ≤ n

section Lines

variable (p : Policy)

theorem judged_append (l m : List Line) : judged p (l ++ m) = judged p l ++ judged p m :=
  List.filter_append l m

/-- What holds of the findings on each line makes the check of all lines modular. -/
theorem modular_of_lines (onLine : Policy → Line → List Finding)
    (hseparator : ∀ p n, onLine p ⟨n, ['!']⟩ = [])
    (hmap : ∀ g p l, onLine p (l.mapNumber g) = (onLine p l).map (·.mapLine g))
    (hline : ∀ p l, ∀ f ∈ onLine p l, f.line? = some l.number) :
    Modular fun p d => (judged p d.lines).flatMap (onLine p) where
  joined p a b := by
    have hnone : (judged p [⟨a.offset, ['!']⟩]).flatMap (onLine p) = [] := by
      rw [List.flatMap_eq_nil_iff]
      intro l hl
      rw [List.mem_singleton.mp (List.mem_of_mem_filter hl), hseparator]
    have hsecond : (judged p ((Line.ofText b).map (·.moveBy a.offset))).flatMap (onLine p) =
        ((judged p (Line.ofText b)).flatMap (onLine p)).map (·.moveBy a.offset) := by
      rw [Finding.moveBy_eq_mapLine, List.map_flatMap]
      refine (congrArg _ (judged_map_mapNumber (· + (a.offset : Int)) p (Line.ofText b))).trans ?_
      rw [List.flatMap_map]
      exact List.flatMap_congr fun l _ => hmap _ p l
    have hlist : (judged p (Line.ofText (a.joined b))).flatMap (onLine p) =
        (judged p (Line.ofText a)).flatMap (onLine p) ++
          ((judged p (Line.ofText b)).flatMap (onLine p)).map (·.moveBy a.offset) := by
      rw [Line.ofText_joined, ← List.singleton_append, judged_append, judged_append,
        List.flatMap_append, List.flatMap_append, hnone, hsecond, List.nil_append]
    exact List.Perm.of_eq hlist
  line_nonneg p t f hf n hn := by
    obtain ⟨l, hl, hf⟩ := List.mem_flatMap.mp hf
    have hnumber := hline p l f hf
    have hstart := Line.start_le_of_mem (List.mem_of_mem_filter hl)
    rw [hnumber, Option.mem_some_iff] at hn
    omega

end Lines

theorem line?_of_mem_credentialFindings {p : Policy} {l : Line} {f : Finding}
    (hf : f ∈ credentialFindings p l) : f.line? = some l.number := by
  unfold credentialFindings at hf
  dsimp only at hf
  split_ifs at hf <;> simp only [List.mem_append, List.mem_singleton, List.not_mem_nil, or_false,
    false_or] at hf
  · rcases hf with rfl | rfl <;> rfl
  · rw [hf, Finding.line?]
  · rw [hf, Finding.line?]

theorem line?_of_mem_ite {c : Prop} [Decidable c] {f g : Finding} {n : Int}
    (hf : f ∈ if c then [g] else []) (hg : g.line? = some n) : f.line? = some n := by
  split_ifs at hf
  · rw [List.mem_singleton.mp hf, hg]
  · exact absurd hf List.not_mem_nil

theorem weakPasswords_modular : Modular fun p d => weakPasswords p d.lines := by
  apply modular_of_lines fun p l => credentialFindings p l ++ enablePasswordFindings l
  case hseparator =>
    intro p n
    rfl
  case hmap =>
    intro g p l
    rw [List.map_append, credentialFindings_mapNumber, enablePasswordFindings_mapNumber]
  case hline =>
    intro p l f hf
    rcases List.mem_append.mp hf with hf | hf
    · exact line?_of_mem_credentialFindings hf
    · exact line?_of_mem_ite hf rfl

theorem insecureServices_modular : Modular fun p d => insecureServices p d.lines := by
  apply modular_of_lines fun _ l => telnetFindings l ++ httpFindings l
  case hseparator =>
    intro p n
    rfl
  case hmap =>
    intro g p l
    rw [List.map_append, telnetFindings_mapNumber, httpFindings_mapNumber]
  case hline =>
    intro p l f hf
    rcases List.mem_append.mp hf with hf | hf
    · exact line?_of_mem_ite hf rfl
    · exact line?_of_mem_ite hf rfl

theorem missingAccessControl_moveBy (distance : Int) (i : Inventory) :
    missingAccessControl (i.moveBy distance) =
      (missingAccessControl i).map (·.moveBy distance) := by
  rw [Finding.moveBy_eq_mapLine]
  exact missingAccessControl_mapNumber (· + distance) i

theorem unusedInterfaces_moveBy (distance : Int) (i : Inventory) :
    unusedInterfaces (i.moveBy distance) = (unusedInterfaces i).map (·.moveBy distance) := by
  rw [Finding.moveBy_eq_mapLine]
  exact unusedInterfaces_mapNumber (· + distance) i

/-- VTY lines are reported before interfaces, so the reports on two parts interleave. -/
theorem missingAccessControl_append (i j : Inventory) :
    (missingAccessControl (i ++ j)).Perm (missingAccessControl i ++ missingAccessControl j) := by
  unfold missingAccessControl
  rw [Inventory.append_vtyLines, Inventory.append_interfaces, List.filter_append,
    List.filter_append, List.map_append, List.map_append, List.append_assoc, List.append_assoc]
  exact (List.perm_append_comm_assoc _ _ _).append_left _

theorem unusedInterfaces_append (i j : Inventory) :
    unusedInterfaces (i ++ j) = unusedInterfaces i ++ unusedInterfaces j := by
  unfold unusedInterfaces
  rw [Inventory.append_interfaces, List.filter_append, List.map_append]

theorem interface_lineNumber_nonneg {t : Text} {i : Interface}
    (hi : i ∈ (Inventory.ofText t).interfaces) : 0 ≤ i.lineNumber := by
  rw [Inventory.ofText_eq_allFrom] at hi
  obtain ⟨b, -, rfl⟩ := List.mem_map.mp hi
  exact Int.natCast_nonneg b.lineNumber

theorem vtyLine_lineNumber_nonneg {t : Text} {v : VtyLine}
    (hv : v ∈ (Inventory.ofText t).vtyLines) : 0 ≤ v.lineNumber := by
  rw [Inventory.ofText_eq_allFrom] at hv
  obtain ⟨b, -, rfl⟩ := List.mem_map.mp hv
  exact Int.natCast_nonneg b.lineNumber

theorem missingAccessControl_modular :
    Modular fun _ d => missingAccessControl d.inventory where
  joined _ a b := by
    show (missingAccessControl (Inventory.ofText (a.joined b))).Perm _
    rw [Inventory.ofText_joined, ← missingAccessControl_moveBy]
    exact missingAccessControl_append _ _
  line_nonneg _ t f hf n hn := by
    rcases List.mem_append.mp hf with hf | hf
    · obtain ⟨v, hv, rfl⟩ := List.mem_map.mp hf
      rw [← Option.some.inj hn]
      exact vtyLine_lineNumber_nonneg (List.mem_of_mem_filter hv)
    · obtain ⟨i, hi, rfl⟩ := List.mem_map.mp hf
      rw [← Option.some.inj hn]
      exact interface_lineNumber_nonneg (List.mem_of_mem_filter hi)

theorem unusedInterfaces_modular : Modular fun _ d => unusedInterfaces d.inventory where
  joined _ a b := by
    show (unusedInterfaces (Inventory.ofText (a.joined b))).Perm _
    rw [Inventory.ofText_joined, unusedInterfaces_append, unusedInterfaces_moveBy]
    exact List.Perm.refl _
  line_nonneg _ t f hf n hn := by
    obtain ⟨i, hi, rfl⟩ := List.mem_map.mp hf
    rw [← Option.some.inj hn]
    exact interface_lineNumber_nonneg (List.mem_of_mem_filter hi)

/-- A modular check, as a part of an audit, reports the same issues on the parts of a joined
configuration as on the whole, but for the line numbers. -/
theorem ofFindings_joined {findings : Policy → Document → List Finding} (h : Modular findings)
    (name : Text) (category : Option Text) (p : Policy) (a b : Text) :
    ∃ onFirst onSecond onBoth,
      (ofFindings name category findings).run p (.ofText a) = some onFirst ∧
      (ofFindings name category findings).run p (.ofText b) = some onSecond ∧
      (ofFindings name category findings).run p (.ofText (a.joined b)) = some onBoth ∧
      onBoth.Perm (onFirst ++ onSecond.map (·.renumber a.offset)) := by
  refine ⟨_, _, _, rfl, rfl, rfl, ?_⟩
  have hmoved : ((findings p (.ofText b)).map (·.moveBy a.offset)).map Finding.issue =
      ((findings p (.ofText b)).map Finding.issue).map (·.renumber a.offset) := by
    rw [List.map_map, List.map_map]
    exact List.map_congr_left fun f hf => Finding.issue_moveBy (h.line_nonneg p b f hf) a.offset
  rw [← hmoved, ← List.map_append]
  exact (h.joined p a b).map Finding.issue

/-- The checks that judge line by line or block by block: all but the one that looks at the
configuration as a whole. -/
def modular : List Check := standard.take 4

theorem modular_joined {c : Check} (hc : c ∈ modular) (p : Policy) (a b : Text) :
    ∃ onFirst onSecond onBoth,
      c.run p (.ofText a) = some onFirst ∧ c.run p (.ofText b) = some onSecond ∧
      c.run p (.ofText (a.joined b)) = some onBoth ∧
      onBoth.Perm (onFirst ++ onSecond.map (·.renumber a.offset)) := by
  simp only [modular, standard, List.take, List.mem_cons, List.not_mem_nil, or_false] at hc
  rcases hc with rfl | rfl | rfl | rfl
  · exact ofFindings_joined weakPasswords_modular _ _ p a b
  · exact ofFindings_joined insecureServices_modular _ _ p a b
  · exact ofFindings_joined missingAccessControl_modular _ _ p a b
  · exact ofFindings_joined unusedInterfaces_modular _ _ p a b

example : modular.map (·.name) =
    ["weak_passwords", "insecure_services", "missing_access_control", "unused_interfaces"] := rfl

end ConfigAudit.Check
