import ConfigAudit.Logging
import Mathlib.Data.List.Basic
import Mathlib.Data.List.Induction

/-! Runs of the logging setup, and other code that adds handlers between them. A run puts a new
console and a new file handler behind all others, in place of those of an earlier run, and leaves
the handlers of other code as they are. -/
namespace ConfigAudit.Logging

/-- The names without small letters that are known, as levels or not. -/
def known : List Text := levels.map Prod.fst ++ misnomers.map Prod.fst

/-- The level of a name: the one that it spells in any case, or `INFO` if it is not known. -/
def Resolves (name : Text) (level : Int) : Prop :=
  (name.capitals, level) ∈ levels ∨ name.capitals ∉ known ∧ (("INFO" : Text), level) ∈ levels

theorem levels_unique : ∀ p ∈ levels, ∀ q ∈ levels, p.1 = q.1 → p = q := by decide

theorem info_mem_levels_iff (level : Int) : (("INFO" : Text), level) ∈ levels ↔ 20 = level := by
  constructor
  · intro hmem
    exact congrArg Prod.snd (levels_unique ("INFO", 20) (by decide) _ hmem rfl)
  · rintro rfl
    decide

theorem of_find?_name {α : Type} {names : List (Text × α)} {name : Text} {p : Text × α}
    (h : names.find? (·.1 = name) = some p) : p ∈ names ∧ p.1 = name :=
  ⟨List.mem_of_find?_eq_some h, by simpa using List.find?_some h⟩

theorem find?_name_eq_none_iff {α : Type} {names : List (Text × α)} {name : Text} :
    names.find? (·.1 = name) = none ↔ name ∉ names.map Prod.fst := by
  simp only [List.find?_eq_none, decide_eq_true_eq, List.mem_map, not_exists, not_and]

theorem levelOf_eq_ok_iff (name : Text) (level : Int) :
    levelOf name = .ok level ↔ Resolves name level := by
  rw [levelOf, Resolves, known, List.mem_append, not_or, info_mem_levels_iff]
  cases hlevel : levels.find? (·.1 = name.capitals) with
  | some p =>
    obtain ⟨hp, hname⟩ := of_find?_name hlevel
    have hknown : name.capitals ∈ levels.map Prod.fst := hname ▸ List.mem_map_of_mem hp
    constructor
    · rintro ⟨⟩
      exact .inl (hname ▸ hp)
    · rintro (hmem | ⟨hunknown, -⟩)
      · rw [levels_unique p hp _ hmem hname]
      · exact absurd hknown hunknown.1
  | none =>
    have hnoLevel := find?_name_eq_none_iff.mp hlevel
    have hnotMem : (name.capitals, level) ∉ levels := fun hmem =>
      hnoLevel (List.mem_map_of_mem (f := Prod.fst) hmem)
    cases hmisnomer : misnomers.find? (·.1 = name.capitals) with
    | some m =>
      obtain ⟨hm, hname⟩ := of_find?_name hmisnomer
      have hknown : name.capitals ∈ misnomers.map Prod.fst := hname ▸ List.mem_map_of_mem hm
      simp [hnotMem, hknown]
    | none =>
      have hnoMisnomer := find?_name_eq_none_iff.mp hmisnomer
      simp only [hnotMem, hnoLevel, hnoMisnomer, not_false_eq_true, true_and, false_or,
        Except.ok.injEq]

theorem exists_resolves {name : Text}
    (hname : name.capitals ∈ levels.map Prod.fst ∨ name.capitals ∉ known) :
    ∃ level, Resolves name level := by
  rcases hname with hlevel | hunknown
  · obtain ⟨⟨_, level⟩, hp, rfl⟩ := List.mem_map.mp hlevel
    exact ⟨level, .inl hp⟩
  · exact ⟨20, .inr ⟨hunknown, (info_mem_levels_iff 20).mpr rfl⟩⟩

/-- A list behind which newcomers have lined up, each once, in the order of their first coming. -/
def joinedBy (present newcomers : List Handler) : List Handler :=
  present ++ (newcomers.removeAll present).eraseDups

section JoinedBy

variable (present newcomers : List Handler) (h : Handler)

theorem mem_joinedBy : h ∈ joinedBy present newcomers ↔ h ∈ present ∨ h ∈ newcomers := by
  by_cases hpresent : h ∈ present <;> simp [joinedBy, hpresent, List.removeAll]

/-- One more newcomer lines up unless it is there already. -/
theorem joinedBy_snoc :
    joinedBy present (newcomers ++ [h]) =
      if h ∈ joinedBy present newcomers then joinedBy present newcomers
      else joinedBy present newcomers ++ [h] := by
  have hsplit : (newcomers ++ [h]).removeAll present =
      newcomers.removeAll present ++ [h].removeAll present := List.filter_append newcomers [h]
  have hlast : joinedBy present (newcomers ++ [h]) = joinedBy present newcomers ++
      (([h].removeAll present).removeAll (newcomers.removeAll present)).eraseDups := by
    rw [joinedBy, hsplit, List.eraseDups_append, ← List.append_assoc, ← joinedBy]
  rw [hlast]
  by_cases hpresent : h ∈ present <;> by_cases hnew : h ∈ newcomers <;>
    simp [mem_joinedBy, hpresent, hnew, List.removeAll, List.eraseDups_cons]

/-- What is there already stays as often as it is, and a newcomer is there once. -/
theorem count_joinedBy :
    (joinedBy present newcomers).count h =
      if h ∈ present then present.count h else if h ∈ newcomers then 1 else 0 := by
  induction newcomers using List.reverseRecOn with
  | nil => by_cases hpresent : h ∈ present <;> simp [joinedBy, hpresent, List.count_eq_zero]
  | append_singleton newcomers x ih =>
    rw [joinedBy_snoc]
    by_cases hx : x ∈ joinedBy present newcomers
    · rw [if_pos hx, ih]
      rw [mem_joinedBy] at hx
      by_cases hpresent : h ∈ present
      · rw [if_pos hpresent, if_pos hpresent]
      · have hsame : h ∈ newcomers ++ [x] ↔ h ∈ newcomers := by
          rw [List.mem_append, List.mem_singleton, or_iff_left_iff_imp]
          rintro rfl
          exact hx.resolve_left hpresent
        simp only [hsame]
    · rw [if_neg hx, List.count_append, ih]
      rw [mem_joinedBy, not_or] at hx
      by_cases hsame : x = h
      · subst hsame
        simp [hx.1, hx.2]
      · simp [hsame, Ne.symm hsame]

end JoinedBy

namespace Logger

variable (l : Logger)

/-- The handlers without the mark. -/
def foreign (l : Logger) : List Handler := l.handlers.filter (!·.isOwn)

theorem mem_foreign (h : Handler) : h ∈ l.foreign ↔ h ∈ l.handlers ∧ h.isOwn = false := by
  simp [foreign]

theorem count_foreign {h : Handler} (hforeign : h.isOwn = false) :
    l.foreign.count h = l.handlers.count h := List.count_filter (by simp [hforeign])

theorem number_lt_freeNumber {h : Handler} (hmem : h ∈ l.handlers) : h.number < l.freeNumber := by
  obtain ⟨level, handlers⟩ := l
  induction handlers with
  | nil => exact absurd hmem List.not_mem_nil
  | cons x r ih =>
    rcases List.mem_cons.mp hmem with rfl | hmem
    · exact Nat.le_max_left _ _
    · exact Nat.lt_of_lt_of_le (ih hmem) (Nat.le_max_right _ _)

theorem addHandler_of_notMem {h : Handler} (hnew : h ∉ l.handlers) :
    l.addHandler h = { l with handlers := l.handlers ++ [h] } := if_neg hnew

/-- A handler of other code lines up behind its like. -/
theorem foreign_addHandler {h : Handler} (hforeign : h.isOwn = false) :
    (l.addHandler h).foreign = if h ∈ l.foreign then l.foreign else l.foreign ++ [h] := by
  by_cases hmem : h ∈ l.handlers
  · rw [addHandler, if_pos hmem, if_pos ((l.mem_foreign h).mpr ⟨hmem, hforeign⟩)]
  · have hnotMem : h ∉ l.foreign := fun hin => hmem ((l.mem_foreign h).mp hin).1
    rw [if_neg hnotMem, foreign, l.addHandler_of_notMem hmem, List.filter_append, ← foreign,
      List.filter_cons_of_pos (by simp [hforeign]), List.filter_nil]

/-- What the scan has passed is of other code, so the first occurrence of a handler with the mark is
the one that the scan stands at. -/
theorem handlers_foldl_removeIfOwn (passed ahead : List Handler) {l : Logger}
    (hpassed : ∀ h ∈ passed, h.isOwn = false) (hl : l.handlers = passed ++ ahead) :
    (ahead.foldl removeIfOwn l).handlers = passed ++ ahead.filter (!·.isOwn) := by
  induction ahead generalizing passed l with
  | nil => simpa using hl
  | cons h ahead ih =>
    cases hown : h.isOwn with
    | true =>
      have hnotMem : h ∉ passed := fun hmem => by simp [hpassed h hmem] at hown
      have hremoved : (l.removeIfOwn h).handlers = passed ++ ahead := by
        rw [removeIfOwn, if_pos hown, removeHandler, hl,
          List.erase_append_right _ hnotMem, List.erase_cons_head]
      rw [List.foldl_cons, ih passed hpassed hremoved, List.filter_cons_of_neg (by simp [hown])]
    | false =>
      have hkept : (l.removeIfOwn h).handlers = (passed ++ [h]) ++ ahead := by
        rw [removeIfOwn, if_neg (by simp [hown]), hl, List.append_assoc, List.singleton_append]
      have hpassed' : ∀ x ∈ passed ++ [h], x.isOwn = false := by
        simpa [or_imp, forall_and] using ⟨hpassed, hown⟩
      rw [List.foldl_cons, ih _ hpassed' hkept, List.filter_cons_of_pos (by simp [hown]),
        List.append_assoc, List.singleton_append]

theorem level_removeIfOwn (h : Handler) : (l.removeIfOwn h).level = l.level := by
  unfold removeIfOwn
  split <;> rfl

/-- Nothing but the handlers changes, and of them those of other code stay as they are. -/
theorem removeOwn_eq : l.removeOwn = { l with handlers := l.foreign } := by
  have hhandlers : l.removeOwn.handlers = l.foreign :=
    handlers_foldl_removeIfOwn [] l.handlers (fun _ hmem => absurd hmem List.not_mem_nil) rfl
  have hlevel : l.removeOwn.level = l.level := by
    rw [removeOwn]
    induction l.handlers using List.reverseRecOn with
    | nil => rfl
    | append_singleton scanned h ih =>
      rw [List.foldl_append, ← ih]
      exact level_removeIfOwn _ h
  rw [← hlevel, ← hhandlers]

theorem install_eq (level : Int) :
    l.install level =
      ⟨level, l.foreign ++ [⟨l.freeNumber, .stream, level, true⟩,
        ⟨l.freeNumber + 1, .rotatingFile, level, true⟩]⟩ := by
  have hconsole : (⟨l.freeNumber, .stream, level, true⟩ : Handler) ∉ l.foreign := by
    simp [mem_foreign]
  have hfile : (⟨l.freeNumber + 1, .rotatingFile, level, true⟩ : Handler) ∉
      l.foreign ++ [⟨l.freeNumber, .stream, level, true⟩] := by
    simp [mem_foreign]
  have hremoved : ({ l with level } : Logger).removeOwn = ⟨level, l.foreign⟩ := removeOwn_eq _
  rw [install, hremoved, addHandler_of_notMem ⟨level, l.foreign⟩ hconsole,
    addHandler_of_notMem ⟨level, _⟩ hfile, List.append_assoc, List.singleton_append]

theorem own_install (level : Int) :
    (l.install level).own =
      [⟨l.freeNumber, .stream, level, true⟩, ⟨l.freeNumber + 1, .rotatingFile, level, true⟩] := by
  have hnone : l.foreign.filter (·.isOwn) = [] := by simp [foreign, List.filter_filter]
  rw [own, install_eq, List.filter_append, hnone]
  rfl

/-- How a run at a level leaves a logger. The only handlers with the mark are a console and a file
handler behind all others. Both are new, and all others are as before. -/
structure Equipped (before after : Logger) (level : Int) : Prop where
  level_eq : after.level = level
  installed_eq : after.installed = [(.stream, level), (.rotatingFile, level)]
  own_last : after.own <:+ after.handlers
  own_new : ∀ h ∈ after.own, h ∉ before.handlers
  foreign_eq : after.foreign = before.foreign

theorem equipped_install (level : Int) : l.Equipped (l.install level) level where
  level_eq := by rw [install_eq]
  installed_eq := by
    rw [installed, own_install]
    rfl
  own_last := by
    rw [own_install, install_eq]
    exact List.suffix_append _ _
  own_new h hmem hbefore := by
    have hlt := l.number_lt_freeNumber hbefore
    rw [own_install] at hmem
    rcases List.mem_pair.mp hmem with rfl | rfl
    · exact Nat.lt_irrefl _ hlt
    · exact Nat.not_succ_lt_self hlt
  foreign_eq := by
    have hall : l.foreign.filter (!·.isOwn) = l.foreign := by simp [foreign, List.filter_filter]
    rw [foreign, install_eq, List.filter_append, hall]
    exact List.append_nil _

/-- What happens to a logger: a run under a name, or the addition of a handler by other code. -/
inductive Event where
  | run (levelName : Text)
  | addition (h : Handler) (foreign : h.isOwn = false)

/-- A run under a name without a level fails and leaves the logger as it is. -/
def step (l : Logger) : Event → Logger
  | .run levelName =>
    match l.configure levelName with
    | .ok l' => l'
    | .error _ => l
  | .addition h _ => l.addHandler h

def after (l : Logger) (past : List Event) : Logger := past.foldl step l

/-- The handlers that other code adds, in order. -/
def additions (past : List Event) : List Handler :=
  past.filterMap fun
    | .run _ => none
    | .addition h _ => some h

theorem isOwn_of_mem_additions {past : List Event} {h : Handler} (hmem : h ∈ additions past) :
    h.isOwn = false := by
  obtain ⟨e, -, he⟩ := List.mem_filterMap.mp hmem
  cases e with
  | run levelName => cases he
  | addition x hforeign => exact Option.some.inj he ▸ hforeign

theorem after_snoc (past : List Event) (e : Event) :
    l.after (past ++ [e]) = (l.after past).step e := by
  rw [after, List.foldl_append, after]
  rfl

theorem foreign_step_run (levelName : Text) : (l.step (.run levelName)).foreign = l.foreign := by
  cases hlevel : levelOf levelName with
  | error misnomer => simp only [step, configure, hlevel, Except.map]
  | ok level =>
    simp only [step, configure, hlevel, Except.map]
    exact (l.equipped_install level).foreign_eq

/-- The runs of a history do not matter to the handlers of other code. -/
theorem foreign_after (past : List Event) :
    (l.after past).foreign = joinedBy l.foreign (additions past) := by
  induction past using List.reverseRecOn with
  | nil => exact (List.append_nil _).symm
  | append_singleton past e ih =>
    cases e with
    | run levelName =>
      have hadditions : additions (past ++ [.run levelName]) = additions past :=
        List.filterMap_append.trans (List.append_nil _)
      rw [after_snoc, foreign_step_run, ih, hadditions]
    | addition h hforeign =>
      have hadditions : additions (past ++ [.addition h hforeign]) = additions past ++ [h] :=
        List.filterMap_append
      rw [after_snoc, step, foreign_addHandler _ hforeign, ih, hadditions, joinedBy_snoc]

/-- Whatever handlers a logger has had, and whatever runs and additions there have been, a run under
a name that is a level or is not known succeeds. It leaves a console and a file handler behind the
handlers of other code, which are those from the start and those added since, in the order of their
coming, and each of them once unless the start has it more often. -/
theorem configure_equipped (past : List Event) {name : Text}
    (hname : name.capitals ∈ levels.map Prod.fst ∨ name.capitals ∉ known) :
    ∃ level l', Resolves name level ∧ (l.after past).configure name = .ok l' ∧
      (l.after past).Equipped l' level ∧
      l'.foreign = joinedBy l.foreign (additions past) ∧
      ∀ h ∈ l.foreign ++ additions past, l.handlers.count h ≤ 1 → l'.handlers.count h = 1 := by
  obtain ⟨level, hlevel⟩ := exists_resolves hname
  have hequipped := (l.after past).equipped_install level
  have hforeign := hequipped.foreign_eq.trans (l.foreign_after past)
  refine ⟨level, _, hlevel, ?_, hequipped, hforeign, fun h hmem honce => ?_⟩
  · rw [configure, (levelOf_eq_ok_iff name level).mpr hlevel]
    rfl
  · have hother : h.isOwn = false := by
      rcases List.mem_append.mp hmem with hmem | hmem
      · exact ((l.mem_foreign h).mp hmem).2
      · exact isOwn_of_mem_additions hmem
    rw [← count_foreign _ hother, hforeign, count_joinedBy]
    by_cases hpresent : h ∈ l.foreign
    · rw [if_pos hpresent]
      rw [← l.count_foreign hother] at honce
      exact Nat.le_antisymm honce (List.count_pos_iff.mpr hpresent)
    · rw [if_neg hpresent, if_pos ((List.mem_append.mp hmem).resolve_left hpresent)]

theorem configure_equipped_interleaved :
    let console : Handler := ⟨0, .stream, 0, false⟩
    let capture : Handler := ⟨2, .other "LogCaptureHandler", 0, false⟩
    let syslog : Handler := ⟨4, .other "SysLogHandler", 30, false⟩
    let l : Logger :=
      { handlers := [console, ⟨1, .stream, 20, true⟩, capture, ⟨3, .rotatingFile, 20, true⟩] }
    let past : List Event :=
      [.run "basic_format", .addition syslog rfl, .run "debug", .addition console rfl]
    (Text.capitals "crıtical" ∈ levels.map Prod.fst ∨ Text.capitals "crıtical" ∉ known) ∧
      ∃ l', (l.after past).configure "crıtical" = .ok l' ∧ (l.after past).Equipped l' 50 ∧
        l'.foreign = [console, capture, syslog] ∧ l'.handlers.count console = 1 := by
  intro console capture syslog l past
  have hname : Text.capitals "crıtical" ∈ levels.map Prod.fst ∨
      Text.capitals "crıtical" ∉ known := .inl (by decide)
  obtain ⟨level, l', hlevel, hconfigured, hequipped, hforeign, honce⟩ :=
    configure_equipped l past hname
  have hcritical : levelOf "crıtical" = .ok 50 := by decide
  obtain rfl : 50 = level :=
    Except.ok.inj (hcritical.symm.trans ((levelOf_eq_ok_iff _ _).mpr hlevel))
  have horder : joinedBy l.foreign (additions past) = [console, capture, syslog] := by decide
  exact ⟨hname, l', hconfigured, hequipped, hforeign.trans horder,
    honce console (by decide) (by decide)⟩

end Logger
end ConfigAudit.Logging
