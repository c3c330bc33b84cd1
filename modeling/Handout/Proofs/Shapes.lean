import Handout.Proofs.Precedence

/-!
# Configurations of every shape

A file may hold a value of any shape. Loading the settings then gives them, or reports what is wrong
in their fields, or stops at the first use of a value as what it is not. `settings_reported_iff` says
which files do the first two: the file for everyone is a mapping with texts for keys, the file of one
machine has no override or one that is such a mapping too, and the extensions that come out of both
are no list with anything but texts in it.

The override is taken as present as soon as its key is, so that a key without a value stops the
loading: `empty_override_is_misused`.

**What it does not establish.** Files are read as values that end. Of documents in which an alias
stands inside of the node of its own anchor nothing is said: reading refuses them here, while a value
that holds itself could be loaded, and merging two of them would run out of depth.
-/

namespace Handout

/-- Entries whose keys are texts. -/
def Mapping.ByText (m : Mapping) : Prop :=
  ∀ e ∈ m, e.1.text?.isSome = true

/-- Settings, or a report of what is wrong in their fields. -/
def Reported (r : Except Stop Settings) : Prop :=
  (∃ x, r = .ok x) ∨ ∃ issues, r = .error (.settings (.invalid issues))

theorem Data.isSome_text?_of_sameKey {k k' : Data} (h : k'.sameKey k = true) :
    k'.text?.isSome = k.text?.isSome := by
  by_cases hk : ∃ t, k.text? = some t
  · obtain ⟨t, ht⟩ := hk
    rw [Data.text?_eq_some.mp ht] at h
    rw [Data.sameKey_text_iff.mp h, ht]
  · by_cases hk' : ∃ t, k'.text? = some t
    · obtain ⟨t, ht⟩ := hk'
      rw [Data.text?_eq_some.mp ht] at h
      rw [ht, Data.text_sameKey_iff.mp h]
    · rw [Option.eq_none_iff_forall_ne_some.mpr fun t ht => hk ⟨t, ht⟩,
        Option.eq_none_iff_forall_ne_some.mpr fun t ht => hk' ⟨t, ht⟩]

namespace Shared

variable {es base layer : Entries} {k : Data} {v : Shared} {mark : Option Mark}

/-! ## Keys of configurations -/

/-- Entries whose keys are texts. -/
def ByText (es : Entries) : Prop :=
  ∀ e ∈ es, e.1.text?.isSome = true

theorem byText_mapping : Mapping.ByText (mapping es) ↔ ByText es := by
  induction es with
  | nil => exact ⟨fun _ _ h => absurd h List.not_mem_nil, fun _ _ h => absurd h List.not_mem_nil⟩
  | cons e r ih =>
    rw [Mapping.ByText, mapping, List.forall_mem_cons, ByText, List.forall_mem_cons]
    exact and_congr_right' ih

theorem byText_put : ByText (put es k v) ↔ ByText es ∧ k.text?.isSome = true := by
  induction es with
  | nil => simp [ByText, put]
  | cons e r ih =>
    obtain ⟨k', x⟩ := e
    rw [put]
    split
    next hsame =>
      have hkey := Data.isSome_text?_of_sameKey hsame
      simp only [ByText, List.forall_mem_cons, hkey]
      exact ⟨fun h => ⟨h, h.1⟩, And.left⟩
    next =>
      simp only [ByText, List.forall_mem_cons] at ih ⊢
      rw [ih, and_assoc]

theorem byText_mergeEntries : ByText (mergeEntries layer base) ↔ ByText base ∧ ByText layer := by
  induction layer generalizing base with
  | nil => exact ⟨fun h => ⟨h, fun _ he => absurd he List.not_mem_nil⟩, And.left⟩
  | cons e r ih =>
    obtain ⟨k, v⟩ := e
    rw [mergeEntries, ih, byText_put, and_assoc]
    simp only [ByText, List.forall_mem_cons]

theorem byText_changeEntries {m : Mark} {c : Entries → Entries} :
    ByText (changeEntries m c es) ↔ ByText es := by
  induction es with
  | nil => exact Iff.rfl
  | cons e r ih =>
    rw [changeEntries, ByText, List.forall_mem_cons, ByText, List.forall_mem_cons]
    exact and_congr_right' ih

theorem byText_putAt {path : List String} : ByText (putAt es path v) ↔ ByText es := by
  have htext (t : String) (x : Shared) : ByText (put es (.text t) x) ↔ ByText es :=
    byText_put.trans (and_iff_left rfl)
  match path with
  | [] => exact Iff.rfl
  | [t] => exact htext t v
  | t :: l :: r =>
    rw [putAt]
    split <;> exact htext t _

theorem byText_write {path : List String} : ByText (write es path v) ↔ ByText es := by
  match path with
  | [] | [_] => exact byText_putAt
  | k :: l :: r =>
    rw [write]
    split
    · exact byText_changeEntries
    · exact byText_putAt

/-! ## Shapes of configurations -/

/-- **Variables keep the shape** of a mapping: it stays one, and its keys are texts if they were. -/
theorem exists_overrideAll_map (mark : Option Mark) (env : Environment) (es : Entries) :
    ∃ es', (Shared.map mark es).overrideAll env = .ok (.map mark es') ∧
      (ByText es' ↔ ByText es) := by
  induction env generalizing es with
  | nil => exact ⟨es, rfl, Iff.rfl⟩
  | cons v r ih =>
    rw [overrideAll, List.foldlM_cons, overrideBy]
    cases Environment.keyPath? v.1 with
    | none => exact ih es
    | some path =>
      obtain ⟨es', hes', hkeys⟩ := ih (write es path (.ofData (Environment.coerce v.2)))
      exact ⟨es', hes', hkeys.trans byText_write⟩

/-- What is no mapping takes no variables. -/
theorem overrideAll_of_other {c c' : Shared} {env : Environment} (hc : c.data.isMap = false)
    (h : c.overrideAll env = .ok c') : c' = c := by
  induction env with
  | nil => exact (Except.ok.inj h).symm
  | cons v r ih =>
    rw [overrideAll, List.foldlM_cons] at h
    obtain ⟨d, hd, h⟩ := Except.bind_eq_ok.mp h
    rw [overrideBy] at hd
    split at hd
    · cases hd
      exact ih h
    · split at hd
      · cases hc
      · cases hd

theorem isMap_merge? {b o d : Data} (hb : b.isMap = false) (h : Data.merge? b o = .ok d) :
    d.isMap = false := by
  cases b with
  | map b => cases hb
  | list xs =>
    cases o with
    | map o =>
      obtain ⟨ys, -, h⟩ := Except.bind_eq_ok.mp h
      cases h
      rfl
    | _ => cases h
  | set xs =>
    cases o with
    | map o =>
      cases o with
      | nil => cases h; rfl
      | cons e r => cases h
    | _ => cases h
  | _ => cases h

/-- Laid over what is no mapping, nothing is one. -/
theorem isMap_merge {b o c : Shared} (hb : b.data.isMap = false) (h : b.merge? o = .ok c) :
    c.data.isMap = false := by
  have hmerge : b.merge? o = (Data.merge? b.data o.data).map ofData := by
    cases b with
    | map mark es => cases hb
    | _ => rfl
  obtain ⟨d, hd, rfl⟩ := Except.map_eq_ok.mp (hmerge ▸ h)
  rw [data_ofData]
  exact isMap_merge? hb hd

end Shared

/-! ## Settings of configurations -/

/-- Extensions that are no list with anything but texts in it. -/
def Mapping.TextExtensions (m : Mapping) : Prop :=
  ∀ xs, Mapping.at? m "discovery" "extensions" = some (.list xs) → ∀ x ∈ xs, x.text?.isSome = true

namespace Settings

/-- What an extension that is no text ends the reading with. -/
def extensionFault? : Data → Option SettingsFault
  | .text _ => none
  | .bytes _ => some .extensionInBytes
  | x => some (.extensionNotText x.kindWord)

theorem extensionFault?_eq_none {x : Data} : extensionFault? x = none ↔ x.text?.isSome = true := by
  cases x <;> simp [extensionFault?, Data.text?]

theorem extensionFault?_ne_invalid {x : Data} (issues : List Issue) :
    extensionFault? x ≠ some (.invalid issues) := by
  cases x <;> simp [extensionFault?]

theorem firstNonText?_eq (m : Mapping) :
    firstNonText? m =
      match Mapping.at? m "discovery" "extensions" with
      | some (.list xs) => xs.findSome? extensionFault?
      | _ => none := by
  rw [firstNonText?, Mapping.at?, Section.key]
  rcases Mapping.field? m "discovery" with _ | d
  · rfl
  · cases d <;> rfl

theorem firstNonText?_eq_none {m : Mapping} : firstNonText? m = none ↔ m.TextExtensions := by
  rw [firstNonText?_eq, Mapping.TextExtensions]
  split
  next xs hxs =>
    rw [List.findSome?_eq_none_iff, hxs]
    constructor
    · intro h ys hys x hx
      cases hys
      exact extensionFault?_eq_none.mp (h x hx)
    · exact fun h x hx => extensionFault?_eq_none.mpr (h xs rfl x hx)
  next hother => exact iff_of_true rfl fun xs hxs => absurd hxs (hother xs)

theorem firstNonText?_ne_invalid {m : Mapping} (issues : List Issue) :
    firstNonText? m ≠ some (.invalid issues) := by
  rw [firstNonText?_eq]
  split
  · intro h
    obtain ⟨x, -, hx⟩ := List.exists_of_findSome?_eq_some h
    exact extensionFault?_ne_invalid issues hx
  · exact nofun

end Settings

open Settings in
/-- **Settings or a report** come from a mapping whose keys are texts and whose extensions, where
they are a list, are texts. -/
theorem reported_ofData {c : Data} :
    Reported ((Settings.ofData c).mapError .settings) ↔
      ∃ m : Mapping, c = .map m ∧ m.ByText ∧ m.TextExtensions := by
  constructor
  · intro h
    cases c with
    | map m =>
      refine ⟨m, rfl, ?_⟩
      rw [Settings.ofData] at h
      split at h
      next hkeys =>
        refine ⟨List.all_eq_true.mp hkeys, firstNonText?_eq_none.mp ?_⟩
        split at h
        next fault hfault =>
          rcases h with ⟨x, hx⟩ | ⟨issues, hx⟩ <;> cases hx
          exact absurd hfault (firstNonText?_ne_invalid issues)
        next hnone => exact hnone
      next => rcases h with ⟨x, hx⟩ | ⟨issues, hx⟩ <;> cases hx
    | _ => rcases h with ⟨x, hx⟩ | ⟨issues, hx⟩ <;> cases hx
  · rintro ⟨m, rfl, hkeys, hext⟩
    rw [Settings.ofData, if_pos (List.all_eq_true.mpr hkeys), firstNonText?_eq_none.mpr hext]
    cases Settings.ofMapping m with
    | ok x => exact .inl ⟨x, rfl⟩
    | error issues => exact .inr ⟨issues, rfl⟩

/-! ## Settings of files -/

namespace Config

open Act Shared

variable {s : Session} {w : World} {dir : Path} {y m : Shared}

/-- A file of one machine that has no override, or one that is a mapping with texts for keys. -/
def Overriding (m : Data) : Prop :=
  hasMember m overrideKey = .ok false ∨
    ∃ M L : Mapping, m = .map M ∧ Mapping.field? M overrideKey = some (.map L) ∧ L.ByText

/-- Only a mapping has something under a name. -/
theorem eq_map_of_member {name : String} {x : Shared} (h : member m name = .ok x) :
    ∃ mark es, m = .map mark es ∧ x = (get? es (.text name)).getD (.ofData .null) := by
  cases m with
  | map mark es => exact ⟨mark, es, rfl, (Except.ok.inj h).symm⟩
  | plain d hd => cases d <;> cases h
  | list xs => cases h
  | pairs ps => cases h

/-- A value that is laid over a mapping is one. -/
theorem eq_map_of_merge? {my mark : Option Mark} {ys es : Entries} {x : Shared}
    (h : (Shared.map my ys).merge? x = .ok (.map mark es)) :
    ∃ ml ls, x = .map ml ls ∧ es = mergeEntries ls ys := by
  cases x with
  | map ml ls =>
    cases h
    exact ⟨ml, ls, rfl, rfl⟩
  | plain d hd =>
    cases d with
    | map e => cases hd
    | _ => cases h
  | list xs => cases h
  | pairs ps => cases h

/-- **Both files give a mapping with texts for keys** just when each of them is of the shape for
it. -/
theorem override_byText_iff :
    (∃ mark es, override y m = .ok (.map mark es) ∧ ByText es) ↔
      ∃ Y : Mapping, y.data = .map Y ∧ Y.ByText ∧ Overriding m.data := by
  rw [override, Overriding]
  cases hmember : hasMember m.data overrideKey with
  | error e =>
    constructor
    · rintro ⟨mark, es, h, -⟩
      cases h
    · rintro ⟨Y, -, -, h | ⟨M, L, hM, -⟩⟩
      · cases h
      · rw [hM] at hmember
        cases hmember
  | ok present =>
    cases present with
    | false =>
      constructor
      · rintro ⟨mark, es, h, hes⟩
        obtain rfl := Except.ok.inj h
        exact ⟨mapping es, rfl, byText_mapping.mpr hes, .inl rfl⟩
      · rintro ⟨Y, hY, hkeys, -⟩
        obtain ⟨mark, es, rfl, rfl⟩ := eq_map_of_data hY
        exact ⟨mark, es, rfl, byText_mapping.mp hkeys⟩
    | true =>
      change (∃ mark es, (member m overrideKey).bind y.merge? = .ok (.map mark es) ∧ ByText es) ↔ _
      constructor
      · rintro ⟨mark, es, h, hes⟩
        obtain ⟨x, hx, h⟩ := Except.bind_eq_ok.mp h
        obtain ⟨mm, ms, rfl, rfl⟩ := eq_map_of_member hx
        cases y with
        | map my ys =>
          obtain ⟨ml, ls, hl, rfl⟩ := eq_map_of_merge? h
          obtain ⟨hys, hls⟩ := byText_mergeEntries.mp hes
          cases hget : get? ms (.text overrideKey) with
          | none =>
            rw [hget] at hl
            cases hl
          | some x =>
            rw [hget] at hl
            cases hl
            exact ⟨mapping ys, rfl, byText_mapping.mpr hys, .inr ⟨mapping ms, mapping ls, rfl,
              by rw [field?_mapping, hget]; rfl, byText_mapping.mpr hls⟩⟩
        | plain d hd => cases isMap_merge (b := .plain d hd) hd h
        | list xs => cases isMap_merge rfl h
        | pairs ps => cases isMap_merge rfl h
      · rintro ⟨Y, hY, hkeys, h | ⟨M, L, hM, hL, hkeys'⟩⟩
        · cases h
        · obtain ⟨my, ys, rfl, rfl⟩ := eq_map_of_data hY
          obtain ⟨mm, ms, rfl, rfl⟩ := eq_map_of_data hM
          rw [field?_mapping] at hL
          obtain ⟨x, hx, hxL⟩ := Option.map_eq_some_iff.mp hL
          obtain ⟨ml, ls, rfl, rfl⟩ := eq_map_of_data hxL
          refine ⟨none, mergeEntries ls ys, ?_, byText_mergeEntries.mpr
            ⟨byText_mapping.mp hkeys, byText_mapping.mp hkeys'⟩⟩
          rw [member, hx]
          rfl

theorem not_reported_misuse (e : Misuse) : ¬ Reported (.error (.misuse e)) := by
  rintro (⟨x, h⟩ | ⟨issues, h⟩) <;> cases h

/-- What is no mapping gives no settings, whatever the variables. -/
theorem not_reported_of_other {c : Shared} (hc : c.data.isMap = false) (env : Environment) :
    ¬ Reported ((((c.overrideAll env).map data).mapError .misuse).bind fun d =>
      (Settings.ofData d).mapError .settings) := by
  intro h
  cases ho : c.overrideAll env with
  | error e =>
    rw [ho] at h
    exact not_reported_misuse e h
  | ok c' =>
    obtain rfl := overrideAll_of_other hc ho
    rw [ho] at h
    obtain ⟨m, hm, -⟩ := reported_ofData.mp h
    rw [hm] at hc
    cases hc

/-- **What loading the settings comes to.** Where both files can be read and the settings are not
loaded yet, there are settings, or a report of what is wrong in their fields, just when the file for
everyone is a mapping with texts for keys, the file of one machine has no override or such a mapping
for one, and the extensions that come out are no list with anything but texts in it. -/
theorem settings_reported_iff (hs : s.settings = none)
    (hdir : directory.exec s w = (.ok dir, s, w))
    (hy : (readFile dir sharedName).exec s w = (.ok y, s, w))
    (hm : (readFile dir localName).exec s w = (.ok m, s, w)) :
    Reported (settings.exec s w).1 ↔
      ∃ Y : Mapping, y.data = .map Y ∧ Y.ByText ∧ Overriding m.data ∧
        ∀ config : Mapping, configuration.exec s w = (.ok (.map config), s, w) →
          config.TextExtensions := by
  have hconfig := exec_configuration hdir hy hm
  rw [exec_settings_eq hs hconfig, hconfig]
  have hsplit (P : Prop) : (∃ Y : Mapping, y.data = .map Y ∧ Y.ByText ∧ Overriding m.data ∧ P) ↔
      (∃ mark es, override y m = .ok (.map mark es) ∧ ByText es) ∧ P := by
    rw [override_byText_iff]
    simp only [← exists_and_right, and_assoc]
  refine Iff.trans ?_ (hsplit _).symm
  cases hover : override y m with
  | error e =>
    constructor
    · exact fun h => absurd h (not_reported_misuse e)
    · rintro ⟨⟨mark, es, h, -⟩, -⟩
      cases h
  | ok c =>
    by_cases hc : c.data.isMap = false
    · constructor
      · exact fun h => absurd h (not_reported_of_other hc w.environment)
      · rintro ⟨⟨mark, es, h, -⟩, -⟩
        cases h
        cases hc
    · obtain ⟨mark, es, rfl⟩ : ∃ mark es, c = .map mark es := by
        cases c with
        | map mark es => exact ⟨mark, es, rfl⟩
        | plain d hd => exact absurd hd hc
        | list xs => exact absurd rfl hc
        | pairs ps => exact absurd rfl hc
      -- the variables keep the shape of what the files give
      obtain ⟨es', hes', hkeys⟩ := exists_overrideAll_map mark w.environment es
      have hresult : (Except.ok (Shared.map mark es)).bind
          (fun c => (c.overrideAll w.environment).map data) =
          (.ok (.map (mapping es')) : Except Misuse Data) := by
        rw [Except.bind, hes']
        rfl
      rw [hresult]
      change Reported ((Settings.ofData (.map (mapping es'))).mapError .settings) ↔ _
      rw [reported_ofData]
      constructor
      · rintro ⟨config, hc, hbyText, hext⟩
        cases hc
        refine ⟨⟨mark, es, rfl, hkeys.mp (byText_mapping.mp hbyText)⟩, fun config hc => ?_⟩
        cases hc
        exact hext
      · rintro ⟨⟨mark', es₀, h, hbyText⟩, hext⟩
        cases h
        exact ⟨mapping es', rfl, byText_mapping.mpr (hkeys.mpr hbyText), hext _ rfl⟩

/-- A world without files whose one variable makes the extensions a number. -/
def numbered : World :=
  Run.plainUnder [("PROBLEMIFY_DISCOVERY__EXTENSIONS", "5")] .empty

/-- Extensions that are a number are reported. -/
theorem settings_reported_numbered : Reported (settings.exec .start numbered).1 := by
  have hy : numbered.holds ((Path.ofText standardDirectory).child sharedName) (fun _ => true) =
      .ok false := by decide
  have hm : numbered.holds ((Path.ofText standardDirectory).child localName) (fun _ => true) =
      .ok false := by decide
  have hdir : directory.exec .start numbered =
      (.ok (Path.ofText standardDirectory), .start, numbered) := rfl
  refine (settings_reported_iff rfl hdir (exec_readFile_of_absent hy)
    (exec_readFile_of_absent hm)).mpr
      ⟨[], rfl, fun _ he => absurd he List.not_mem_nil, .inl rfl, fun config hc => ?_⟩
  have hall : nothing.overrideAll numbered.environment =
      .ok (.map none [(.text "discovery", .map none [(.text "extensions", .ofData (.int 5))])]) := by
    cbv
  rw [exec_configuration_of_absent hdir hy hm, hall] at hc
  cases hc
  intro xs hxs
  cases hxs

/-- A file of one machine whose override has no value. -/
def emptyOverride : World :=
  Run.plain ⟨[(["config"], .dir), (["config", "local.yaml"], .file "settings:\n".toUTF8.toList)],
    by decide⟩

/-- **An override without a value is used as a mapping.** Both files are well formed, and the loading
ends neither with settings nor with a report. -/
theorem empty_override_is_misused :
    (readFile (Path.ofText standardDirectory) sharedName).exec .start emptyOverride =
        (.ok nothing, .start, emptyOverride) ∧
      (readFile (Path.ofText standardDirectory) localName).exec .start emptyOverride =
        (.ok (.map (some ⟨localName, 6⟩) [(.text overrideKey, .ofData .null)]), .start,
          emptyOverride) ∧
      (settings.exec .start emptyOverride).1 =
        .error (.misuse (.noOperation "NoneType" "items")) ∧
      ¬ Reported (settings.exec .start emptyOverride).1 := by
  have hdir : directory.exec .start emptyOverride =
      (.ok (Path.ofText standardDirectory), .start, emptyOverride) := rfl
  have hy : (readFile (Path.ofText standardDirectory) sharedName).exec .start emptyOverride =
      (.ok nothing, .start, emptyOverride) := exec_readFile_of_absent (by decide)
  have hbytes : ofBytes localName "settings:\n".toUTF8.toList =
      .ok (.map (some ⟨localName, 6⟩) [(.text overrideKey, .ofData .null)]) := by cbv
  have hm : (readFile (Path.ofText standardDirectory) localName).exec .start emptyOverride =
      (.ok (.map (some ⟨localName, 6⟩) [(.text overrideKey, .ofData .null)]), .start,
        emptyOverride) :=
    (exec_readFile (by decide) (by decide +kernel)).trans
      (congrArg (·, Session.start, emptyOverride) hbytes)
  have hstop : (settings.exec .start emptyOverride).1 =
      .error (.misuse (.noOperation "NoneType" "items")) := by
    rw [exec_settings_eq rfl (exec_configuration hdir hy hm)]
    rfl
  exact ⟨hy, hm, hstop, hstop ▸ not_reported_misuse _⟩

end Config

end Handout
