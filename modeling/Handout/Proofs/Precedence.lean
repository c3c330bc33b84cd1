import Mathlib
import Handout.Proofs.Loading
import Handout.Proofs.Phases

/-!
# Which source a value comes from

A configuration has three sources. At a section and a field it has what a variable puts there, or
else what the file for one machine has, or else what the file for everyone has
(`configuration_at_field`). The files are laid over each other by `Shared.at?_mergeEntries`, and each
variable changes one field by `Shared.at?_write`; what the variables do in a row is
`exists_overrideAll`.

A variable changes a mapping wherever it stands. So the rule holds where no section of the files
stands in a second place, and fails where one does: `variable_reaches_alias`.
-/

namespace Handout

/-- The field of a section of a configuration. -/
def Mapping.at? (m : Mapping) (s f : String) : Option Data :=
  match Mapping.field? m s with
  | some (.map fs) => Mapping.field? fs f
  | _ => none

/-- Sections of plain fields: each section is a mapping, and none of its fields is one. -/
def Mapping.Flat (m : Mapping) : Prop :=
  ∀ s d, Mapping.field? m s = some d →
    ∃ fs, d = .map fs ∧ ∀ f x, Mapping.field? fs f = some x → x.isMap = false

theorem Mapping.flat_of_forall {m : Mapping}
    (h : ∀ e ∈ m, ∃ fs, e.2 = .map fs ∧ ∀ x ∈ fs, x.2.isMap = false) : m.Flat := by
  intro s d hd
  obtain ⟨e, he, rfl⟩ := Option.map_eq_some_iff.mp hd
  obtain ⟨fs, hfs, hplain⟩ := h e (List.mem_of_find?_eq_some he)
  refine ⟨fs, hfs, fun f x hx => ?_⟩
  obtain ⟨y, hy, rfl⟩ := Option.map_eq_some_iff.mp hx
  exact hplain y (List.mem_of_find?_eq_some hy)

namespace Shared

variable {es : Entries} {mark : Option Mark}

theorem at?_mapping (es : Entries) (s f : String) :
    Mapping.at? (mapping es) s f = (at? es s f).map data := by
  rw [Mapping.at?, field?_mapping]
  cases hs : get? es (.text s) with
  | none => rw [at?_of_other (by simp [hs])]; rfl
  | some x =>
    cases x with
    | map mark fs => rw [at?_of_get? hs]; exact field?_mapping fs f
    | list xs => rw [at?_of_other (by simp [hs])]; rfl
    | pairs ps => rw [at?_of_other (by simp [hs])]; rfl
    | plain d hd =>
      rw [at?_of_other (by simp [hs])]
      cases d with
      | map e => cases hd
      | _ => rfl

/-- Sections of plain fields in what a mapping of a document reads. -/
theorem flat_of_tidy (htidy : Tidy (.map mark es)) (hflat : Mapping.Flat (mapping es)) :
    Flat es := by
  intro s x hx
  obtain ⟨e, he, hplain⟩ := hflat s x.data (by rw [field?_mapping, hx, Option.map_some])
  obtain ⟨mark', fs, rfl, rfl⟩ := eq_map_of_data he
  refine ⟨mark', fs, rfl, (htidy.of_get? hx).keys, fun f y hy => ?_⟩
  exact hplain f y.data (by rw [field?_mapping, hy, Option.map_some])

mutual

theorem marks_ofData : ∀ d, marks (ofData d) = []
  | .map es => entryMarks_ofMapping es
  | .null | .bool _ | .int _ | .float _ | .text _ | .bytes _ | .date _ | .moment _
  | .list _ | .tuple _ | .set _ => rfl

theorem entryMarks_ofMapping : ∀ es, entryMarks (ofMapping es) = []
  | [] => rfl
  | (k, d) :: r => by
    rw [ofMapping, entryMarks, marks_ofData d, entryMarks_ofMapping r]
    rfl

end

end Shared

/-! ## Variables -/

namespace Environment

variable {env : Environment} {s f : String}

/-- What an environment puts at a section and a field: the value of the last variable for it. -/
def assigned? : Environment → String → String → Option Data
  | [], _, _ => none
  | v :: r, s, f =>
    (assigned? r s f).or (if keyPath? v.1 = some [s, f] then some (coerce v.2) else none)

theorem assigned?_eq_none (h : ∀ v ∈ env, keyPath? v.1 ≠ some [s, f]) :
    assigned? env s f = none := by
  induction env with
  | nil => rfl
  | cons v r ih =>
    obtain ⟨hv, hr⟩ := List.forall_mem_cons.mp h
    rw [assigned?, ih hr, if_neg hv, Option.none_or]

/-- **Where no two variables are for one field**, each one puts its value there, whatever the
order. -/
theorem assigned?_of_mem (honce : (env.filterMap fun v => keyPath? v.1).Nodup)
    {v : String × String} (hv : v ∈ env) (hpath : keyPath? v.1 = some [s, f]) :
    assigned? env s f = some (coerce v.2) := by
  induction env with
  | nil => exact absurd hv List.not_mem_nil
  | cons u r ih =>
    rw [assigned?]
    have hr : (r.filterMap fun v => keyPath? v.1).Nodup :=
      ((List.sublist_cons_self u r).filterMap _).nodup honce
    rcases List.mem_cons.mp hv with rfl | hv
    · have hfirst : (v :: r).filterMap (fun v => keyPath? v.1) =
          [s, f] :: r.filterMap fun v => keyPath? v.1 := List.filterMap_cons_some hpath
      rw [hfirst] at honce
      have hnone : assigned? r s f = none := assigned?_eq_none fun u hu hup =>
        (List.nodup_cons.mp honce).1 (List.mem_filterMap.mpr ⟨u, hu, hup⟩)
      rw [hnone, if_pos hpath, Option.none_or]
    · rw [ih hr hv, Option.some_or]

end Environment

open Environment Shared in
/-- **Variables for fields put their values there**, where sections stand alone, and change nothing
else. -/
theorem exists_overrideAll (mark : Option Mark) {env : Environment} {es : Entries}
    (hpaths : ∀ v ∈ env, ∀ path, keyPath? v.1 = some path → path.length = 2) (halone : Alone es) :
    ∃ es', (Shared.map mark es).overrideAll env = .ok (.map mark es') ∧
      ∀ s f, at? es' s f = ((assigned? env s f).map ofData).or (at? es s f) := by
  induction env generalizing es with
  | nil => exact ⟨es, rfl, fun s f => rfl⟩
  | cons v r ih =>
    obtain ⟨hv, hr⟩ := List.forall_mem_cons.mp hpaths
    cases hpath : keyPath? v.1 with
    | none =>
      obtain ⟨es', hes', hat⟩ := ih hr halone
      refine ⟨es', ?_, fun s f => ?_⟩
      · rw [overrideAll, List.foldlM_cons, overrideBy, hpath]
        exact hes'
      · simp only [hat, assigned?, hpath, reduceCtorEq, if_false, Option.or_none]
    | some path =>
      match path, hv path hpath with
      | [a, b], _ =>
        have hmarks := marks_ofData (coerce v.2)
        obtain ⟨es', hes', hat⟩ := ih hr (alone_write (s := a) (f := b) halone hmarks)
        refine ⟨es', ?_, fun s f => ?_⟩
        · rw [overrideAll, List.foldlM_cons, overrideBy, hpath]
          exact hes'
        · rw [hat, at?_write halone, assigned?, hpath]
          by_cases hab : s = a ∧ f = b
          · obtain ⟨rfl, rfl⟩ := hab
            cases assigned? r s f <;> simp
          · have hne : ¬ (a = s ∧ b = f) := fun h => hab ⟨h.1.symm, h.2.symm⟩
            simp [hab, hne]

/-! ## Files -/

namespace Config

open Act Shared

variable {s t : Session} {w u : World}

/-- **Both files as mappings**: that of one machine is laid over that for everyone. Where it has no
override, that is the override that says nothing. -/
theorem override_eq (my mm : Option Mark) (ys : Entries) {ml : Option Mark} {ms ls : Entries}
    (hl : (get? ms (.text overrideKey)).getD nothing = .map ml ls) :
    ∃ mark, override (.map my ys) (.map mm ms) = .ok (.map mark (mergeEntries ls ys)) := by
  have hmember : hasMember (Shared.map mm ms).data overrideKey =
      .ok (get? ms (.text overrideKey)).isSome := by
    rw [data, hasMember, field?_mapping, Option.isSome_map]
  rw [override, hmember]
  cases hget : get? ms (.text overrideKey) with
  | none =>
    rw [hget] at hl
    cases hl
    exact ⟨my, rfl⟩
  | some x =>
    rw [hget] at hl
    cases hl
    have hlayer : member (.map mm ms) overrideKey = .ok (.map ml ls) := by
      rw [member, hget, Option.getD_some]
    refine ⟨none, ?_⟩
    change (member (.map mm ms) overrideKey).bind (fun x => (Shared.map my ys).merge? x) = _
    rw [hlayer]
    rfl

/-- **The source of a field.** The sources are mappings, the override has sections of plain fields,
every variable is for a field and no two are for the same one, and no section of the files stands in
a second place. Then the configuration that the settings are made of has at every field the value of
the variable for it; where there is none, what the override has; where that has nothing, what the
file for everyone has, if anything. -/
theorem configuration_at_field {dir : Path} {my mm ml : Option Mark} {ys ms ls : Entries}
    (hs : s.settings = none)
    (hdir : directory.exec s w = (.ok dir, s, w))
    (hy : (readFile dir sharedName).exec s w = (.ok (.map my ys), s, w))
    (hm : (readFile dir localName).exec s w = (.ok (.map mm ms), s, w))
    (hl : (get? ms (.text overrideKey)).getD nothing = .map ml ls)
    (hflat : Mapping.Flat (mapping ls))
    (hpaths : ∀ v ∈ w.environment, ∀ path, Environment.keyPath? v.1 = some path → path.length = 2)
    (honce : (w.environment.filterMap fun v => Environment.keyPath? v.1).Nodup)
    (halone : Alone (mergeEntries ls ys)) :
    ∃ config : Mapping, configuration.exec s w = (.ok (.map config), s, w) ∧
      (settings.exec s w).1 = (Settings.ofData (.map config)).mapError .settings ∧
      ∀ sec f,
        (∀ v ∈ w.environment, Environment.keyPath? v.1 = some [sec, f] →
          config.at? sec f = some (Environment.coerce v.2)) ∧
        ((∀ v ∈ w.environment, Environment.keyPath? v.1 ≠ some [sec, f]) →
          config.at? sec f = ((mapping ls).at? sec f).or ((mapping ys).at? sec f)) := by
  have htidy : Tidy (.map ml ls) := by
    cases hget : get? ms (.text overrideKey) with
    | none =>
      rw [hget] at hl
      cases hl
      exact .map List.nodup_nil fun _ he => absurd he List.not_mem_nil
    | some x =>
      rw [hget] at hl
      cases hl
      exact (tidy_of_readFile hm).of_get? hget
  have hlaid := at?_mergeEntries htidy.keys (flat_of_tidy htidy hflat) ys
  obtain ⟨mark, hover⟩ := override_eq my mm ys hl
  obtain ⟨es, hes, hat⟩ := exists_overrideAll mark hpaths halone
  have hconfig : configuration.exec s w = (.ok (.map (mapping es)), s, w) := by
    rw [exec_configuration hdir hy hm, hover, Except.bind, hes]
    rfl
  refine ⟨mapping es, hconfig, exec_settings_eq hs hconfig, fun sec f => ⟨?_, ?_⟩⟩
  · intro v hv hpath
    rw [at?_mapping, hat, Environment.assigned?_of_mem honce hv hpath]
    exact congrArg some (data_ofData _)
  · intro hnone
    rw [at?_mapping, hat, Environment.assigned?_eq_none hnone, Option.map_none, Option.none_or,
      hlaid, at?_mapping, at?_mapping, Option.map_or]

/-- A file for everyone with values for three fields. -/
def threeFields : String :=
  "\"general\":\n  \"log_level\": \"INFO\"\n  \"log_file\": \"a\"\n\"processing\":\n  \"encoding\": \"ascii\"\n"

/-- A file of one machine with a value for one of them. -/
def oneField : String :=
  "\"settings\":\n  \"general\":\n    \"log_level\": \"DEBUG\"\n"

/-- The two files in the standard directory, and a variable for one of the fields. -/
def layered : World :=
  Run.plainUnder [("PROBLEMIFY_GENERAL__LOG_FILE", "b"), ("HOME", "/")]
    ⟨[(["config"], .dir), (["config", "settings.yaml"], .file threeFields.toUTF8.toList),
      (["config", "local.yaml"], .file oneField.toUTF8.toList)], by decide⟩

/-- What the file for everyone says. -/
def sharedFields : Entries := [
  (.text "general", .map (some ⟨sharedName, 21⟩)
    [(.text "log_level", .ofData (.text "INFO")), (.text "log_file", .ofData (.text "a"))]),
  (.text "processing", .map (some ⟨sharedName, 8⟩) [(.text "encoding", .ofData (.text "ascii"))])]

/-- What the override of the one machine says. -/
def machineFields : Entries := [
  (.text "general", .map (some ⟨localName, 9⟩) [(.text "log_level", .ofData (.text "DEBUG"))])]

theorem ofBytes_threeFields : ofBytes sharedName threeFields.toUTF8.toList =
    .ok (.map (some ⟨sharedName, 25⟩) sharedFields) := by
  cbv

theorem ofBytes_oneField : ofBytes localName oneField.toUTF8.toList =
    .ok (.map (some ⟨localName, 17⟩)
      [(.text overrideKey, .map (some ⟨localName, 13⟩) machineFields)]) := by
  cbv

/-- Of three fields, one comes from the variable, one from the file of the machine and one from the
file for everyone. -/
theorem configuration_at_three_fields :
    ∃ config : Mapping, configuration.exec .start layered = (.ok (.map config), .start, layered) ∧
      config.at? "general" "log_file" = some (.text "b") ∧
      config.at? "general" "log_level" = some (.text "DEBUG") ∧
      config.at? "processing" "encoding" = some (.text "ascii") := by
  have hy : (readFile (Path.ofText standardDirectory) sharedName).exec .start layered =
      (.ok (.map (some ⟨sharedName, 25⟩) sharedFields), .start, layered) :=
    (exec_readFile (by decide) (by decide +kernel)).trans
      (congrArg (·, Session.start, layered) ofBytes_threeFields)
  have hm : (readFile (Path.ofText standardDirectory) localName).exec .start layered =
      (.ok (.map (some ⟨localName, 17⟩)
        [(.text overrideKey, .map (some ⟨localName, 13⟩) machineFields)]), .start, layered) :=
    (exec_readFile (by decide) (by decide +kernel)).trans
      (congrArg (·, Session.start, layered) ofBytes_oneField)
  have hflat : Mapping.Flat (mapping machineFields) :=
    Mapping.flat_of_forall fun e he => by
      cases List.mem_singleton.mp he
      exact ⟨_, rfl, fun x hx => by cases List.mem_singleton.mp hx; rfl⟩
  have hl : (get? [(.text overrideKey, .map (some ⟨localName, 13⟩) machineFields)]
      (.text overrideKey)).getD nothing = .map (some ⟨localName, 13⟩) machineFields := rfl
  obtain ⟨config, hconfig, -, hat⟩ :=
    configuration_at_field (s := .start) (w := layered) rfl rfl hy hm hl hflat
      (by decide) (by decide) (alone_of_nodup (by decide))
  refine ⟨config, hconfig, ?_, ?_, ?_⟩
  · exact (hat "general" "log_file").1 ("PROBLEMIFY_GENERAL__LOG_FILE", "b") List.mem_cons_self
      (by decide)
  · exact ((hat "general" "log_level").2 (by decide)).trans rfl
  · exact ((hat "processing" "encoding").2 (by decide)).trans rfl

/-! ## A section that stands twice -/

/-- A file in which one section is an alias of another. -/
def twoNames : String :=
  "\"general\": &g\n  \"encoding\": \"utf-8\"\n\"processing\": *g\n"

/-- That file in the standard directory, and a variable for a field of the first section. -/
def aliased : World :=
  Run.plainUnder [("PROBLEMIFY_GENERAL__ENCODING", "latin-1")]
    ⟨[(["config"], .dir), (["config", "settings.yaml"], .file twoNames.toUTF8.toList)], by decide⟩

/-- What the file says. -/
def aliasedFields : Entries :=
  let section? := Shared.map (some ⟨sharedName, 12⟩) [(.text "encoding", .ofData (.text "utf-8"))]
  [(.text "general", section?), (.text "processing", section?)]

theorem ofBytes_twoNames : ofBytes sharedName twoNames.toUTF8.toList =
    .ok (.map (some ⟨sharedName, 17⟩) aliasedFields) := by
  cbv

/-- **A variable reaches an alias.** The file is a mapping with sections of plain fields, the one
variable is for another section, and there is no override. Yet the field of the second section does
not have what the file has there. -/
theorem variable_reaches_alias :
    (readFile (Path.ofText standardDirectory) sharedName).exec .start aliased =
        (.ok (.map (some ⟨sharedName, 17⟩) aliasedFields), .start, aliased) ∧
      (readFile (Path.ofText standardDirectory) localName).exec .start aliased =
        (.ok nothing, .start, aliased) ∧
      Mapping.Flat (mapping aliasedFields) ∧
      aliased.environment.map (fun v => Environment.keyPath? v.1) =
        [some ["general", "encoding"]] ∧
      ∃ config : Mapping, configuration.exec .start aliased = (.ok (.map config), .start, aliased) ∧
        config.at? "processing" "encoding" = some (.text "latin-1") ∧
        (mapping aliasedFields).at? "processing" "encoding" = some (.text "utf-8") := by
  have hy : (readFile (Path.ofText standardDirectory) sharedName).exec .start aliased =
      (.ok (.map (some ⟨sharedName, 17⟩) aliasedFields), .start, aliased) :=
    (exec_readFile (by decide) (by decide +kernel)).trans
      (congrArg (·, Session.start, aliased) ofBytes_twoNames)
  have hm : (readFile (Path.ofText standardDirectory) localName).exec .start aliased =
      (.ok nothing, .start, aliased) := exec_readFile_of_absent (by decide)
  have hdir : directory.exec .start aliased =
      (.ok (Path.ofText standardDirectory), .start, aliased) := rfl
  obtain ⟨mark, hover⟩ := override_eq (some ⟨sharedName, 17⟩) none aliasedFields
    (show (get? [] (.text overrideKey)).getD nothing = .map none [] from rfl)
  refine ⟨hy, hm, ?_, by decide, ?_⟩
  · refine Mapping.flat_of_forall fun e he => ?_
    rcases List.mem_cons.mp he with rfl | he
    · exact ⟨_, rfl, fun x hx => by cases List.mem_singleton.mp hx; rfl⟩
    · cases List.mem_singleton.mp he
      exact ⟨_, rfl, fun x hx => by cases List.mem_singleton.mp hx; rfl⟩
  · have hpath : Environment.keyPath? "PROBLEMIFY_GENERAL__ENCODING" =
        some ["general", "encoding"] := by decide
    have hvalue : Environment.coerce "latin-1" = .text "latin-1" := by
      have hfold : String.ofList (LowerCase.fold "latin-1".toList) = "latin-1" := by decide
      have hint : Numeral.integer "latin-1".toList = .error .malformed := by decide
      simp only [Environment.coerce, hfold, hint]
      rfl
    rw [exec_configuration hdir hy hm, nothing, hover, aliased, Run.plainUnder, Except.bind,
      overrideAll, List.foldlM_cons, overrideBy, hpath, hvalue]
    exact ⟨_, rfl, rfl, rfl⟩

end Config

end Handout
