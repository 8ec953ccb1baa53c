import ConfigAudit.Proofs.Json.Faults
import ConfigAudit.Proofs.Json.Quoted
import ConfigAudit.Settings.Loading

/-! What the origins are after loading. A list is taken only if it holds nothing but texts. A text
is taken for what it says in JSON, so a value inside a JSON string is not checked at all. -/
namespace ConfigAudit

/-- A list of texts, and nothing else. -/
def Json.IsTexts (j : Json) : Prop := ∃ l, j = .texts l

namespace Settings
open Decoder

theorem decodeOriginsText_eq_ok {t : Text} {v : Json} (h : decodeOriginsText t = .ok v) :
    Json.read t = .ok v ∨ Json.read t = .error .malformed ∧ v.IsTexts := by
  unfold decodeOriginsText originsOfText at h
  cases hread : Json.read t with
  | ok j =>
    simp only [hread, Checked.ok.injEq] at h
    exact .inl (by rw [h])
  | error fault =>
    cases fault with
    | malformed =>
      simp only [hread, Checked.ok.injEq] at h
      exact .inr ⟨rfl, _, h.symm⟩
    | overlong | tooDeep => simp [hread, Decoded.fault] at h

theorem decodeOriginsText_of_read {t : Text} {v : Json} (h : Json.read t = .ok v) :
    decodeOriginsText t = .ok v := by
  simp [decodeOriginsText, originsOfText, h]

theorem stops_decodeOriginsText_iff (t : Text) :
    (decodeOriginsText t).Stops ↔ ∃ c, Json.read t = .error (.tooDeep c) := by
  unfold decodeOriginsText originsOfText
  cases Json.read t with
  | ok j => simp
  | error fault => cases fault <;> simp [Decoded.stops_fault_iff]

/-- A text is read, a list of texts stays as it is, and anything else is reported. -/
theorem decodeOrigins_cases (j : Json) :
    (∃ t, j = .str t ∧ decodeOrigins j = decodeOriginsText t) ∨
      (∃ l, j = .texts l ∧ decodeOrigins j = .ok (.texts l)) ∨
      (∀ t, j ≠ .str t) ∧ ¬(decodeOrigins j).Stops ∧ ∃ e, decodeOrigins j = .faulty e := by
  unfold decodeOrigins
  cases hs : str j with
  | ok t => exact .inl ⟨t, str_eq_ok_iff.mp hs, rfl⟩
  | faulty e =>
    cases hl : list str j with
    | ok l => exact .inr (.inl ⟨l, list_str_eq_ok_iff.mp hl, rfl⟩)
    | faulty e' =>
      have htext (t : Text) : j ≠ .str t := fun h => by simp [str_eq_ok_iff.mpr h] at hs
      have hstr : ¬(Decoded.within (.key "str") (.faulty e : Decoded Text)).Stops := by
        simp [← hs]
      have hlist :
          ¬(Decoded.within (.key "list[str]") (.faulty e' : Decoded (List Text))).Stops := by
        simpa [← hl] using not_stops_list not_stops_str j
      have hboth := mt (Decoded.stops_faulty_append _ _).mp (not_or.mpr ⟨hstr, hlist⟩)
      exact .inr (.inr ⟨htext, hboth, _, rfl⟩)

theorem stops_decodeOrigins_iff (j : Json) :
    (decodeOrigins j).Stops ↔ ∃ t, j = .str t ∧ ∃ c, Json.read t = .error (.tooDeep c) := by
  rcases decodeOrigins_cases j with ⟨t, rfl, h⟩ | ⟨l, rfl, h⟩ | ⟨htext, hstops, -⟩
  · simpa [h] using stops_decodeOriginsText_iff t
  · rw [h]
    simp [Json.texts, Json.ofList]
  · simpa [htext] using hstops

/-- Behind a text stands a list of texts unless it is JSON for something else. -/
theorem isTexts_iff_of_decodeOrigins {j v : Json} (h : decodeOrigins j = .ok v) :
    v.IsTexts ↔ ∀ t, j = .str t → ∀ w, Json.read t = .ok w → w.IsTexts := by
  rcases decodeOrigins_cases j with ⟨t, rfl, ht⟩ | ⟨l, rfl, hl⟩ | ⟨-, -, e, he⟩
  · rcases decodeOriginsText_eq_ok (ht ▸ h) with hread | ⟨hread, hv⟩
    · simp [hread]
    · simpa [hread] using hv
  · obtain rfl := Checked.ok.inj (hl.symm.trans h)
    exact iff_of_true ⟨l, rfl⟩ fun t ht => nomatch ht
  · simp [he] at h

namespace Sources

/-- The text that counts for a list: the first one that does not say it is unset. -/
def chosen? (s : Sources) (name : Text) : Option Text :=
  (s.candidates name).find? fun raw => (listValue? raw).isSome

theorem head?_filterMap_listValue? (l : List Text) :
    (l.filterMap listValue?).head? =
      (l.find? fun raw => (listValue? raw).isSome).bind listValue? := by
  induction l with
  | nil => rfl
  | cons raw l ih =>
    rw [List.filterMap_cons, List.find?_cons]
    cases h : listValue? raw with
    | none => simpa [h] using ih
    | some j => simp [h]

theorem listSetting_eq (s : Sources) (name : Text) (default : α) (d : Decoder α) :
    s.listSetting name default d =
      match (s.chosen? name).bind listValue? with
      | some j => (d j).within (.key name)
      | none => .ok default := by
  rw [chosen?, ← head?_filterMap_listValue?, listSetting]
  cases (s.candidates name).filterMap listValue? <;> rfl

/-- What a text gives is a text again if it is one in JSON, or no JSON at all. -/
theorem listValue?_eq_text_iff {raw t : Text} :
    listValue? raw = some (.str t) ↔
      Json.read raw = .ok (.str t) ∨ t = raw ∧ ∀ j, Json.read raw ≠ .ok j := by
  unfold listValue?
  cases Json.read raw with
  | ok j => cases j <;> simp
  | error fault => simp [eq_comm]

theorem bind_listValue?_eq_text_iff {raw? : Option Text} {t : Text} :
    raw?.bind listValue? = some (.str t) ↔
      ∃ raw ∈ raw?, Json.read raw = .ok (.str t) ∨ t = raw ∧ ∀ j, Json.read raw ≠ .ok j := by
  simp only [Option.bind_eq_some_iff, listValue?_eq_text_iff, Option.mem_def]

theorem not_stops_setting {d : Decoder α} (hd : ∀ j, ¬(d j).Stops) (s : Sources) (name : Text)
    (default : Setting α) : ¬(s.setting name default d).Stops := by
  unfold setting
  cases s.candidates name with
  | nil => simp
  | cons raw l => simpa using hd _

def origins (s : Sources) : Decoded Json :=
  s.listSetting "CORS_ORIGINS" ({} : Settings).corsOrigins decodeOrigins

end Sources

theorem stops_ofSources_iff (s : Sources) : (ofSources s).Stops ↔ s.origins.Stops := by
  unfold ofSources
  simp only [Decoded.stops_seq, Decoded.stops_map, Sources.not_stops_setting not_stops_str,
    Sources.not_stops_setting not_stops_boolean, Sources.not_stops_setting not_stops_integer,
    Sources.not_stops_setting (not_stops_nullable not_stops_str), or_false, false_or]
  rfl

theorem corsOrigins_of_ofSources {s : Sources} {settings : Settings}
    (h : ofSources s = .ok settings) : s.origins = .ok settings.corsOrigins := by
  simp only [ofSources, Checked.seq_eq_ok_iff, Checked.map_eq_ok_iff] at h
  -- Nine fields follow the origins, and four stand before them.
  obtain ⟨_, _, ⟨_, _, ⟨_, _, ⟨_, _, ⟨_, _, ⟨_, _, ⟨_, _, ⟨_, _, ⟨_, _, horigins, -, rfl⟩, -, rfl⟩,
    -, rfl⟩, -, rfl⟩, -, rfl⟩, -, rfl⟩, -, rfl⟩, -, rfl⟩, -, rfl⟩ := h
  obtain ⟨_, _, ⟨_, _, ⟨_, _, ⟨_, _, ⟨_, -, rfl⟩, -, rfl⟩, -, rfl⟩, -, rfl⟩, horigins, rfl⟩ :=
    horigins
  exact horigins

theorem stops_origins_iff (s : Sources) :
    s.origins.Stops ↔ ∃ raw ∈ s.chosen? "CORS_ORIGINS", ∃ t,
      (t = raw ∨ Json.read raw = .ok (.str t)) ∧ ∃ c, Json.read t = .error (.tooDeep c) := by
  have hvalue : s.origins.Stops ↔
      ∃ t, (s.chosen? "CORS_ORIGINS").bind Sources.listValue? = some (.str t) ∧
        ∃ c, Json.read t = .error (.tooDeep c) := by
    rw [Sources.origins, Sources.listSetting_eq]
    cases (s.chosen? "CORS_ORIGINS").bind Sources.listValue? with
    | none => simp
    | some j => simpa using stops_decodeOrigins_iff j
  simp only [hvalue, Sources.bind_listValue?_eq_text_iff]
  constructor
  · rintro ⟨t, ⟨raw, hraw, hsays⟩, ht⟩
    exact ⟨raw, hraw, t, hsays.symm.imp_left And.left, ht⟩
  · rintro ⟨raw, hraw, t, rfl | hquoted, c, ht⟩
    · exact ⟨t, ⟨t, hraw, .inr ⟨rfl, by simp [ht]⟩⟩, c, ht⟩
    · exact ⟨t, ⟨raw, hraw, .inl hquoted⟩, c, ht⟩

theorem origins_isTexts_iff {s : Sources} {v : Json} (h : s.origins = .ok v) :
    v.IsTexts ↔ ∀ raw ∈ s.chosen? "CORS_ORIGINS", ∀ t,
      Json.read raw = .ok (.str t) → ∀ j, Json.read t = .ok j → j.IsTexts := by
  have hvalue : v.IsTexts ↔
      ∀ t, (s.chosen? "CORS_ORIGINS").bind Sources.listValue? = some (.str t) →
        ∀ j, Json.read t = .ok j → j.IsTexts := by
    rw [Sources.origins, Sources.listSetting_eq] at h
    cases hv : (s.chosen? "CORS_ORIGINS").bind Sources.listValue? with
    | none =>
      simp only [hv, Checked.ok.injEq] at h
      simpa using ⟨_, h.symm⟩
    | some j =>
      simp only [hv] at h
      simpa using isTexts_iff_of_decodeOrigins (Checked.mapFaults_eq_ok_iff.mp h)
  simp only [hvalue, Sources.bind_listValue?_eq_text_iff]
  constructor
  · exact fun hall raw hraw t hquoted => hall t ⟨raw, hraw, .inl hquoted⟩
  · rintro hall t ⟨raw, hraw, hquoted | ⟨rfl, hunread⟩⟩ j ht
    · exact hall raw hraw t hquoted j ht
    · exact absurd ht (hunread j)

/-- A text that is JSON is taken for what it says when it stands in a JSON string. -/
theorem load_quote {t : Text} {j : Json} (h : Json.read t = .ok j) :
    load [("CORS_ORIGINS", Json.quote t)] [] = .ok { corsOrigins := j } := by
  have hfile : EnvFile.read [("CORS_ORIGINS", Json.quote t)] [] = [] := rfl
  have hquoted : Sources.listValue? (Json.quote t) = some (.str t) :=
    Sources.listValue?_eq_text_iff.mpr (.inl (Json.read_quote t))
  have hdecoded : decodeOrigins (.str t) = .ok j := decodeOriginsText_of_read h
  have horigins (raw : Text) :
      Sources.candidates ⟨[("CORS_ORIGINS", raw)], []⟩ "CORS_ORIGINS" = [raw] := rfl
  rw [load, hfile, ofSources]
  simp only [Sources.listSetting, horigins, List.filterMap_cons, hquoted, hdecoded]
  rfl

/-- Loading gives a list of texts, or else faults that are reported. Two kinds of value escape: a
JSON string whose text is again JSON but no list of texts, and a text that is nested too deeply. How
deep that is depends on the stack that is left; `Json.maxDepth` supposes nearly all of it. -/
theorem load_corsOrigins_isTexts_iff (environment : List (Text × Text)) (file : Text) :
    let s : Sources := ⟨environment, EnvFile.read environment file⟩
    match load environment file with
    | .ok settings =>
      settings.corsOrigins.IsTexts ↔ ∀ raw ∈ s.chosen? "CORS_ORIGINS", ∀ t,
        Json.read raw = .ok (.str t) → ∀ j, Json.read t = .ok j → j.IsTexts
    | .faulty faults =>
      (∀ f ∈ faults, f.stop? = none) ↔ ∀ raw ∈ s.chosen? "CORS_ORIGINS", ∀ t,
        t = raw ∨ Json.read raw = .ok (.str t) → ∀ c, Json.read t ≠ .error (.tooDeep c) := by
  intro s
  cases hload : load environment file with
  | ok settings => exact origins_isTexts_iff (corsOrigins_of_ofSources hload)
  | faulty faults =>
    have hstops := (stops_ofSources_iff s).trans (stops_origins_iff s)
    rw [show ofSources s = .faulty faults from hload] at hstops
    refine (Decoded.not_stops_faulty_iff.symm.trans (not_congr hstops)).trans ?_
    push Not
    rfl

theorem load_quoted_number : load [("CORS_ORIGINS", "\"5\"")] [] = .ok { corsOrigins := .int 5 } ∧
    ¬(Json.int 5).IsTexts :=
  ⟨load_quote (t := "5") rfl, fun ⟨_, h⟩ => nomatch h⟩

end Settings
end ConfigAudit
