import Handout.Proofs.Offences

/-!
# Reports on configurations

A configuration of lists and of mappings with texts for keys, as a document of JSON gives it, is read or
refused with a report. It is read just when it is sound: every section that is present is a mapping,
every field in it that is known has a value that the field takes, and the sections on discovery and on
processing have no other field. The report holds one issue for every place whose value has a problem,
and no other (`settings_report_exact`).

The sections tell of the problems of their fields and of the fields that they do not know; the
configuration tells of those of its sections. An item of the extensions that is no text ends the
reading before there is a report, so the extensions are taken to have none.
-/

namespace Handout

/-! ## What is taken -/

/-- The values that a field takes. A text for a list is read as the list of its items. -/
def FieldKind.Takes : FieldKind → Data → Prop
  | .text, d => ∃ t, d = .text t
  | .optionalText, d => d = .null ∨ ∃ t, d = .text t
  | .switch, d => (∃ b, d = .bool b) ∨ (∃ t, d = .text t ∧ Settings.IsSwitchWord t) ∨
    Settings.wholeNumber? d = some 0 ∨ Settings.wholeNumber? d = some 1
  | .texts, d => ∃ ts, Comma.expand d = Settings.listData ts

/-- The values that a section takes: mappings in which every field that it knows is taken, and, where
the section is strict, no field that it does not know. -/
def Section.Takes (s : Section) (d : Data) : Prop :=
  ∃ fs : Mapping, d = .map fs ∧
    (∀ f ∈ s.fields, ∀ v, fs.field? f.1 = some v → f.2.Takes v) ∧
    (s.Strict → ∀ n ∈ fs.names, n ∈ s.fields.map Prod.fst)

/-- **A sound configuration**: every section that is present is taken. -/
def Mapping.Sound (m : Mapping) : Prop :=
  ∀ (s : Section) d, m.field? s.key = some d → s.Takes d

/-- Two configurations that differ in nothing but fields that no section knows: those of no section,
and those of a section that is not strict. -/
def Mapping.SameKnown (m m' : Mapping) : Prop :=
  ∀ s : Section, m'.field? s.key = m.field? s.key ∨
    ¬ s.Strict ∧ ∃ fs fs' : Mapping, m.field? s.key = some (.map fs) ∧
      m'.field? s.key = some (.map fs') ∧ ∀ f ∈ s.fields, fs'.field? f.1 = fs.field? f.1

namespace Settings

open Checked (Tells tells_ok tells_clear tells_given)

variable {α : Type} {place : List Step} {d v : Data} {i : Issue} {m fs : Mapping} {s : Section}
  {problem? : List Step → Data → Option Problem}

/-! ## Sections -/

/-- An issue of a field that a section does not know. -/
def OfUnknown (s : Section) (fs : Mapping) (i : Issue) : Prop :=
  ∃ n, (Mapping.field? fs n).isSome ∧ s.kind? n = none ∧
    i = ⟨[.field s.key, .field n], .unknownField⟩

theorem mem_fields_of_kind? {n : String} {kind : FieldKind} (h : s.kind? n = some kind) :
    (n, kind) ∈ s.fields := by
  obtain ⟨before, after, h, -⟩ := List.lookup_eq_some_iff.mp h
  rw [h]
  exact List.mem_append_right before List.mem_cons_self

theorem kind?_of_mem : ∀ f ∈ s.fields, s.kind? f.1 = some f.2 := by
  cases s <;> decide

theorem kind?_eq_none {n : String} : s.kind? n = none ↔ n ∉ s.fields.map Prod.fst := by
  rw [Section.kind?, List.lookup_eq_none_iff, List.mem_map, not_exists]
  simp only [bne_iff_ne, not_and]
  exact forall₂_congr fun f _ => ne_comm

theorem unknownFields_eq {known : List String} (hkeys : fs.ByText) :
    unknownFields s known fs = (fs.names.filter (· ∉ known)).map fun n =>
      ⟨[.field s.key, .field n], .unknownField⟩ := by
  induction fs with
  | nil => rfl
  | cons e fs ih =>
    obtain ⟨he, hfs⟩ := List.forall_mem_cons.mp hkeys
    obtain ⟨n, hn⟩ := Option.isSome_iff_exists.mp he
    obtain ⟨k, v⟩ := e
    obtain rfl := Data.text?_eq_some.mp hn
    have hnames : Mapping.names ((.text n, v) :: fs) = n :: Mapping.names fs :=
      List.filterMap_cons_some rfl
    rw [hnames, unknownFields, List.filterMap_cons, ← unknownFields, ih hfs, List.filter_cons]
    by_cases hknown : n ∈ known
    · simp only [hknown, if_true, not_true, decide_false, Bool.false_eq_true, if_false]
    · simp only [hknown, if_false, not_false_iff, decide_true, if_true, List.map_cons]

/-- The fields that a section does not know are told of once each. -/
theorem tells_unknown (hjson : (Data.map fs).IsJson) :
    Tells (Checked.clear (unknownFields s (s.fields.map Prod.fst) fs) ()) (OfUnknown s fs) := by
  cases hjson with
  | map keys apart values =>
    rw [unknownFields_eq keys]
    refine tells_clear ?_ fun i => ?_
    · rw [List.map_map]
      exact (apart.filter _).map fun n n' h => field_eq_of_place h
    · rw [List.mem_map]
      constructor
      · rintro ⟨n, hn, rfl⟩
        obtain ⟨hn, hunknown⟩ := List.mem_filter.mp hn
        exact ⟨n, Mapping.isSome_field?.mpr hn, kind?_eq_none.mpr (of_decide_eq_true hunknown), rfl⟩
      · rintro ⟨n, hn, hunknown, rfl⟩
        exact ⟨n, List.mem_filter.mpr ⟨Mapping.isSome_field?.mp hn,
          decide_eq_true (kind?_eq_none.mp hunknown)⟩, rfl⟩

/-- The issues under a section that is a mapping are those of its fields. -/
theorem under_section : Under [.field s.key] s.problem? (.map fs) i ↔
    (∃ f ∈ s.fields, OfField s fs f i) ∨ (s.Strict ∧ OfUnknown s fs i) := by
  constructor
  · rintro ⟨r, v, hplace, hv, hp⟩
    match r with
    | [] => cases hv; cases hp
    | .index n :: r => cases hv
    | .field n :: r =>
      obtain ⟨x, hx, hv⟩ := Option.bind_eq_some_iff.mp hv
      rw [Section.problem?] at hp
      split at hp
      next kind hkind => exact .inl ⟨_, mem_fields_of_kind? hkind, x, hx, r, v, hplace, hv, hp⟩
      next hunknown =>
        split at hp
        next h =>
          obtain ⟨hstrict, rfl⟩ := h
          refine .inr ⟨hstrict, n, Option.isSome_iff_exists.mpr ⟨x, hx⟩, hunknown, ?_⟩
          obtain ⟨place, problem⟩ := i
          cases hplace
          cases hp
          rfl
        next => cases hp
  · rintro (⟨f, hf, x, hx, r, v, hplace, hv, hp⟩ | ⟨hstrict, n, hn, hunknown, rfl⟩)
    · refine ⟨.field f.1 :: r, v, hplace, Option.bind_eq_some_iff.mpr ⟨x, hx, hv⟩, ?_⟩
      rw [Section.problem?, kind?_of_mem f hf]
      exact hp
    · obtain ⟨x, hx⟩ := Option.isSome_iff_exists.mp hn
      refine ⟨[.field n], x, rfl, Option.bind_eq_some_iff.mpr ⟨x, hx, rfl⟩, ?_⟩
      rw [Section.problem?, hunknown]
      exact if_pos ⟨hstrict, rfl⟩

theorem OfUnknown.place_ne {f : String × FieldKind} {j : Issue} (hi : OfUnknown s fs i)
    (hj : OfField s fs f j) (hf : f ∈ s.fields) : i.place ≠ j.place := by
  obtain ⟨n, -, hunknown, rfl⟩ := hi
  obtain ⟨r, hr⟩ := hj.exists_place
  rw [hr]
  intro h
  rw [field_eq_of_place h, kind?_of_mem f hf] at hunknown
  cases hunknown

theorem tells_general (hjson : (Data.map fs).IsJson) : Tells (GeneralSettings.ofMapping fs)
    (Under [.field Section.general.key] Section.general.problem? (.map fs)) := by
  have hlevel (default : String) : Tells (field .general fs "log_level" default text)
      (OfField .general fs ("log_level", .text)) :=
    tells_field fun v hv => tells_text (Mapping.field?_json hjson hv)
  have hfile (default : Option String) : Tells (field .general fs "log_file" default optionalText)
      (OfField .general fs ("log_file", .optionalText)) :=
    tells_field fun v hv => tells_optionalText (Mapping.field?_json hjson hv)
  have hswitch (default : Bool) : Tells (field .general fs "json_logs" default switch)
      (OfField .general fs ("json_logs", .switch)) :=
    tells_field fun v hv => tells_switch (Mapping.field?_json hjson hv)
  refine (((hlevel _).both (hfile _) ?_).both (hswitch _) ?_).congr fun i => ?_
  · exact fun i j hi hj => hi.place_ne hj (by decide)
  · rintro i j (hi | hi) hj
    · exact hi.place_ne hj (by decide)
    · exact hi.place_ne hj (by decide)
  · rw [under_section]
    simp [Section.fields, Section.Strict, or_assoc]

/-- A section that is strict tells of its fields and of those it does not know. -/
theorem tells_strict {x : Checked α} (hjson : (Data.map fs).IsJson) (hstrict : s.Strict)
    (hx : Tells x fun i => ∃ f ∈ s.fields, OfField s fs f i) :
    Tells (Checked.both (fun a _ => a) x
        (Checked.clear (unknownFields s (s.fields.map Prod.fst) fs) ()))
      (Under [.field s.key] s.problem? (.map fs)) := by
  refine (hx.both (tells_unknown hjson) ?_).congr fun i => ?_
  · rintro i j ⟨f, hf, hi⟩ hj
    exact (hj.place_ne hi hf).symm
  · rw [under_section, and_iff_right hstrict]

theorem tells_discovery (hjson : (Data.map fs).IsJson)
    (htexts : ∀ xs, Mapping.field? fs "extensions" = some (.list xs) → ∀ x ∈ xs, x.text?.isSome = true) :
    Tells (DiscoverySettings.ofMapping fs)
      (Under [.field Section.discovery.key] Section.discovery.problem? (.map fs)) := by
  have hextensions (default : List String) :
      Tells (field .discovery fs "extensions" default fun place v =>
          texts place (dottedData (Comma.expand v)))
        (OfField .discovery fs ("extensions", .texts)) :=
    tells_field fun v hv => tells_extensions (Mapping.field?_json hjson hv) fun xs hxs =>
      htexts xs (hxs ▸ hv)
  have hnames (default : List String) :
      Tells (field .discovery fs "ignore_names" default fun place v => texts place (Comma.expand v))
        (OfField .discovery fs ("ignore_names", .texts)) :=
    tells_field fun v hv => tells_texts (Mapping.field?_json hjson hv)
  refine tells_strict hjson (by decide) (((hextensions _).both (hnames _) ?_).congr fun i => ?_)
  · exact fun i j hi hj => hi.place_ne hj (by decide)
  · simp [Section.fields]

theorem tells_processing (hjson : (Data.map fs).IsJson) : Tells (ProcessingSettings.ofMapping fs)
    (Under [.field Section.processing.key] Section.processing.problem? (.map fs)) := by
  have hencoding (default : String) : Tells (field .processing fs "encoding" default text)
      (OfField .processing fs ("encoding", .text)) :=
    tells_field fun v hv => tells_text (Mapping.field?_json hjson hv)
  refine tells_strict hjson (by decide) (((hencoding _).map _).congr fun i => ?_)
  simp [Section.fields]

/-! ## Configurations -/

/-- An issue of a section. -/
def OfSection (s : Section) (m : Mapping) (i : Issue) : Prop :=
  ∃ d, Mapping.field? m s.key = some d ∧ Under [.field s.key] s.problem? d i

theorem problem?_of_other (hd : d.isMap = false) (a : Step) (r : List Step) (v : Data)
    (hv : d.at? (a :: r) = some v) : s.problem? (a :: r) v = none := by
  obtain ⟨x, hx, -⟩ := Option.bind_eq_some_iff.mp hv
  cases d with
  | map m => cases hd
  | list xs =>
    cases a with
    | field n => cases hx
    | index n => rfl
  | _ => cases hx

theorem tells_section {default : α} {read : Mapping → Checked α}
    (h : ∀ fs, Mapping.field? m s.key = some (.map fs) →
      Tells (read fs) (Under [.field s.key] s.problem? (.map fs))) :
    Tells (section? s m default read) (OfSection s m) := by
  refine tells_given (fun hnone => ⟨default, ?_⟩) fun d hd => ?_
  · rw [section?, hnone]
  · rw [section?, hd]
    by_cases hmap : d.isMap = false
    · have hproblem : s.problem? [] d = some (.notSection s) := by
        rw [Section.problem?, hmap]
        rfl
      refine tells_whole (problem?_of_other hmap) ?_
      rw [hproblem]
      cases d with
      | map fs => cases hmap
      | _ => rfl
    · cases d with
      | map fs => exact h fs hd
      | _ => exact absurd rfl hmap

theorem named?_key : ∀ s : Section, Section.named? s.key = some s := by
  intro s
  cases s <;> decide

theorem OfSection.place_ne {t : Section} {j : Issue} (hi : OfSection s m i) (hj : OfSection t m j)
    (hne : s ≠ t) : i.place ≠ j.place := by
  obtain ⟨-, -, r, -, hr, -⟩ := hi
  obtain ⟨-, -, q, -, hq, -⟩ := hj
  rw [hr, hq]
  intro h
  have hkey : s.key = t.key := Step.field.inj (List.cons.inj h).1
  have hsame := named?_key s
  rw [hkey, named?_key] at hsame
  exact hne (Option.some.inj hsame).symm

theorem section_of_named? {k : String} (h : Section.named? k = some s) : k = s.key :=
  (of_decide_eq_true (List.find?_some (p := fun s => decide (Section.key s = k)) h)).symm

/-- The issues of a configuration are those of its sections. -/
theorem under_configuration : Under [] Settings.problem? (.map m) i ↔ ∃ s, OfSection s m i := by
  constructor
  · rintro ⟨r, v, hplace, hv, hp⟩
    match r with
    | [] => cases hp
    | .index n :: r => cases hp
    | .field k :: r =>
      obtain ⟨d, hd, hinside⟩ := Option.bind_eq_some_iff.mp hv
      obtain ⟨s, hs, hproblem⟩ := Option.bind_eq_some_iff.mp hp
      obtain rfl := section_of_named? hs
      exact ⟨s, d, hd, r, v, hplace, hinside, hproblem⟩
  · rintro ⟨s, d, hd, r, v, hplace, hv, hp⟩
    refine ⟨.field s.key :: r, v, hplace, Option.bind_eq_some_iff.mpr ⟨d, hd, hv⟩, ?_⟩
    rw [Settings.problem?, named?_key]
    exact hp

/-- **A configuration tells of the problems of its values.** -/
theorem tells_ofMapping (hjson : (Data.map m).IsJson) (htexts : m.TextExtensions) :
    Tells (ofMapping m) (Under [] Settings.problem? (.map m)) := by
  have hgeneral (default : GeneralSettings) :
      Tells (section? .general m default GeneralSettings.ofMapping) (OfSection .general m) :=
    tells_section fun fs hfs => tells_general (Mapping.field?_json hjson hfs)
  have hdiscovery (default : DiscoverySettings) :
      Tells (section? .discovery m default DiscoverySettings.ofMapping) (OfSection .discovery m) := by
    refine tells_section fun fs hfs => tells_discovery (Mapping.field?_json hjson hfs) fun xs hxs => ?_
    refine htexts xs ?_
    rw [Section.key] at hfs
    rw [Mapping.at?, hfs]
    exact hxs
  have hprocessing (default : ProcessingSettings) :
      Tells (section? .processing m default ProcessingSettings.ofMapping) (OfSection .processing m) :=
    tells_section fun fs hfs => tells_processing (Mapping.field?_json hjson hfs)
  refine (((hgeneral _).both (hdiscovery _) ?_).both (hprocessing _) ?_).congr fun i => ?_
  · exact fun i j hi hj => hi.place_ne hj (by decide)
  · rintro i j (hi | hi) hj
    · exact hi.place_ne hj (by decide)
    · exact hi.place_ne hj (by decide)
  · rw [under_configuration]
    constructor
    · rintro ((hi | hi) | hi)
      · exact ⟨_, hi⟩
      · exact ⟨_, hi⟩
      · exact ⟨_, hi⟩
    · rintro ⟨s, hi⟩
      cases s with
      | general => exact .inl (.inl hi)
      | discovery => exact .inl (.inr hi)
      | processing => exact .inr hi

/-! ## Sound configurations -/

/-- Nothing under a place is an issue when no value there has a problem. -/
theorem not_under_iff : (∀ i, ¬ Under place problem? d i) ↔
    ∀ r v, d.at? r = some v → problem? r v = none := by
  constructor
  · intro h r v hv
    exact Option.eq_none_iff_forall_ne_some.mpr fun p hp => h ⟨place ++ r, p⟩ ⟨r, v, rfl, hv, hp⟩
  · rintro h i ⟨r, v, -, hv, hp⟩
    rw [h r v hv] at hp
    cases hp

theorem numberProblem?_eq_none {n? : Option Int} :
    numberProblem? n? = none ↔ n? = some 0 ∨ n? = some 1 := by
  cases n? with
  | none => simp [numberProblem?]
  | some n => simp [numberProblem?, or_iff_not_imp_left]

theorem switchProblem?_eq_none : switchProblem? d = none ↔ FieldKind.switch.Takes d := by
  cases d with
  | bool b => exact iff_of_true rfl (.inl ⟨b, rfl⟩)
  | text t => simp [switchProblem?, FieldKind.Takes, wholeNumber?]
  | _ => simp [switchProblem?, FieldKind.Takes, numberProblem?_eq_none]

/-- A field takes the values in which nothing is an issue. -/
theorem takes_iff {kind : FieldKind} (hd : d.IsJson) :
    kind.Takes d ↔ ∀ i, ¬ Under place kind.problem? d i := by
  have hwhole (hinside : ∀ a r v, d.at? (a :: r) = some v → kind.problem? (a :: r) v = none) :
      (∀ i, ¬ Under place kind.problem? d i) ↔ kind.problem? [] d = none := by
    rw [not_under_iff]
    constructor
    · exact fun h => h [] d rfl
    · rintro h (_ | ⟨a, r⟩) v hv
      · cases hv
        exact h
      · exact hinside a r v hv
  cases kind with
  | text =>
    rw [hwhole fun _ _ _ _ => rfl]
    cases hd <;> simp [FieldKind.Takes, FieldKind.problem?, Data.text?]
  | optionalText =>
    rw [hwhole fun _ _ _ _ => rfl]
    cases hd <;> simp [FieldKind.Takes, FieldKind.problem?, Data.text?]
  | switch => rw [hwhole fun _ _ _ _ => rfl, ← switchProblem?_eq_none, FieldKind.problem?]
  | texts =>
    have hnone (hother : FieldKind.texts.problem? [] d = some .notList) :
        ¬ ∀ i, ¬ Under place FieldKind.texts.problem? d i :=
      fun h => h ⟨place, .notList⟩ ⟨[], d, (List.append_nil _).symm, rfl, hother⟩
    cases hd with
    | text t =>
      refine iff_of_true ⟨Comma.split t, rfl⟩ (not_under_iff.mpr ?_)
      rintro (_ | ⟨a, r⟩) v hv
      · cases hv
        rfl
      · cases hv
    | @list xs hxs =>
      simp only [under_list]
      constructor
      · rintro ⟨ts, hts⟩ i ⟨j, v, hv, -, hp⟩
        obtain rfl : xs = ts.map .text := Data.list.inj hts
        obtain ⟨t, -, rfl⟩ := List.mem_map.mp (List.mem_of_getElem? hv)
        cases hp
      · intro h
        refine exists_listData fun x hx => ?_
        obtain ⟨j, hj⟩ := List.getElem?_of_mem hx
        by_contra hother
        exact h ⟨_, .notText⟩ ⟨j, x, hj, rfl, if_neg hother⟩
    | _ =>
      refine iff_of_false ?_ (hnone rfl)
      rintro ⟨ts, hts⟩
      cases hts

theorem section_takes_iff (hd : d.IsJson) :
    s.Takes d ↔ ∀ i, ¬ Under [.field s.key] s.problem? d i := by
  by_cases hmap : d.isMap = false
  · refine iff_of_false ?_ fun h => h ⟨[.field s.key], .notSection s⟩ ⟨[], d, rfl, rfl, ?_⟩
    · rintro ⟨fs, rfl, -⟩
      cases hmap
    · rw [Section.problem?, hmap]
      rfl
  · cases d with
    | map fs =>
      simp only [under_section]
      constructor
      · rintro ⟨fs', hfs, hfields, hknown⟩ i (⟨f, hf, v, hv, hi⟩ | ⟨hstrict, n, hn, hunknown, -⟩)
        · cases hfs
          exact (takes_iff (Mapping.field?_json hd hv)).mp (hfields f hf v hv) i hi
        · cases hfs
          exact kind?_eq_none.mp hunknown (hknown hstrict n (Mapping.isSome_field?.mp hn))
      · intro h
        refine ⟨fs, rfl, fun f hf v hv => ?_, fun hstrict n hn => ?_⟩
        · exact (takes_iff (Mapping.field?_json hd hv)).mpr fun i hi => h i (.inl ⟨f, hf, v, hv, hi⟩)
        · by_contra hunknown
          exact h _ (.inr ⟨hstrict, n, Mapping.isSome_field?.mpr hn, kind?_eq_none.mpr hunknown, rfl⟩)
    | _ => exact absurd rfl hmap

/-- A configuration is sound when nothing in it is an issue. -/
theorem sound_iff (hjson : (Data.map m).IsJson) :
    m.Sound ↔ ∀ i, ¬ Under [] Settings.problem? (.map m) i := by
  simp only [under_configuration, not_exists]
  constructor
  · rintro h i s ⟨d, hd, hi⟩
    exact (section_takes_iff (Mapping.field?_json hjson hd)).mp (h s d hd) i hi
  · intro h s d hd
    exact (section_takes_iff (Mapping.field?_json hjson hd)).mpr fun i hi => h i s ⟨d, hd, hi⟩

theorem offends_iff : m.Offends i ↔ Under [] Settings.problem? (.map m) i := by
  constructor
  · rintro ⟨v, hv, hp⟩
    exact ⟨i.place, v, rfl, hv, hp⟩
  · rintro ⟨r, v, hplace, hv, hp⟩
    obtain rfl : i.place = r := hplace
    exact ⟨v, hv, hp⟩

/-! ## Fields that are passed over -/

theorem ofMapping_of_sameKnown {m' : Mapping} (h : m.SameKnown m') : ofMapping m' = ofMapping m := by
  have hstrict (s : Section) (hs : s.Strict) : m'.field? s.key = m.field? s.key :=
    (h s).resolve_right fun h => h.1 hs
  have hsame {α : Type} {s : Section} {default : α} {read : Mapping → Checked α}
      (hs : m'.field? s.key = m.field? s.key) :
      (section? s m' default read) = section? s m default read := by
    rw [section?, section?, hs]
  have hgeneral (default : GeneralSettings) :
      (section? .general m' default GeneralSettings.ofMapping) =
        (section? .general m default GeneralSettings.ofMapping) := by
    rcases h .general with hs | ⟨-, fs, fs', hfs, hfs', hfields⟩
    · exact hsame hs
    · have hfield {α : Type} {default : α} {check : List Step → Data → Checked α} {n : String}
          (hn : n ∈ Section.general.fields.map Prod.fst) :
          field .general fs' n default check = field .general fs n default check := by
        obtain ⟨f, hf, rfl⟩ := List.mem_map.mp hn
        rw [field, field, hfields f hf]
      have hread : GeneralSettings.ofMapping fs' = GeneralSettings.ofMapping fs := by
        rw [GeneralSettings.ofMapping, GeneralSettings.ofMapping,
          hfield (n := "log_level") (by decide), hfield (n := "log_file") (by decide),
          hfield (n := "json_logs") (by decide)]
      rw [section?, section?, hfs, hfs']
      exact hread
  rw [ofMapping, ofMapping, hgeneral, hsame (hstrict .discovery (by decide)),
    hsame (hstrict .processing (by decide))]

theorem ofData_of_sameKnown {m' : Mapping} (hm : m.ByText) (hm' : m'.ByText) (h : m.SameKnown m') :
    ofData (.map m') = ofData (.map m) := by
  have hdiscovery : m'.field? Section.discovery.key = m.field? Section.discovery.key :=
    (h .discovery).resolve_right fun h => h.1 (by decide)
  rw [ofData, ofData, if_pos (List.all_eq_true.mpr hm), if_pos (List.all_eq_true.mpr hm'),
    firstNonText?, firstNonText?, hdiscovery, ofMapping_of_sameKnown h]

/-! ## Reports -/

/-- A configuration with an issue is refused with it among others, or alone. -/
theorem exists_report (hjson : (Data.map m).IsJson) (htexts : m.TextExtensions) (hi : m.Offends i) :
    ∃ is, ofData (.map m) = .error (.invalid is) ∧ i ∈ is := by
  have hmem := ((tells_ofMapping hjson htexts).mem i).mpr (offends_iff.mp hi)
  rw [ofData_of_textExtensions hjson.byText htexts]
  cases h : ofMapping m with
  | ok x =>
    rw [h] at hmem
    cases hmem
  | error is =>
    rw [h] at hmem
    exact ⟨is, rfl, hmem⟩

/-- **What a configuration of JSON comes to.** It is accepted just when it is sound. Otherwise it is
refused with one issue for every place whose value has a problem and with no other; whatever else is
changed in the configuration, the issue at a place stays as long as the value there does. Fields at
the top or in the general section that are not known make no difference. -/
theorem settings_report_exact (hjson : (Data.map m).IsJson) (htexts : m.TextExtensions) :
    ((∃ x, ofData (.map m) = .ok x) ↔ m.Sound) ∧
    (¬ m.Sound → ∃ is, ofData (.map m) = .error (.invalid is) ∧
      (is.map Issue.place).Nodup ∧ (∀ i, i ∈ is ↔ m.Offends i) ∧
      ∀ i ∈ is, ∀ m' : Mapping, (Data.map m').IsJson → m'.TextExtensions →
        (Data.map m').at? i.place = (Data.map m).at? i.place →
        ∃ js, ofData (.map m') = .error (.invalid js) ∧ i ∈ js) ∧
    ∀ m' : Mapping, m'.ByText → m.SameKnown m' → ofData (.map m') = ofData (.map m) := by
  have htells := tells_ofMapping hjson htexts
  have hread := ofData_of_textExtensions hjson.byText htexts
  have hsound : (∃ x, ofMapping m = .ok x) ↔ m.Sound :=
    htells.exists_ok_iff.trans (sound_iff hjson).symm
  refine ⟨?_, fun hunsound => ?_, fun m' hm' => ofData_of_sameKnown hjson.byText hm'⟩
  · rw [← hsound, hread]
    exact exists_congr fun x => Except.mapError_eq_ok
  · cases h : ofMapping m with
    | ok x => exact absurd (hsound.mp ⟨x, h⟩) hunsound
    | error is =>
      rw [h] at hread htells
      have hmem (i : Issue) : i ∈ is ↔ m.Offends i := (htells.mem i).trans offends_iff.symm
      refine ⟨is, hread, htells.apart, hmem, fun i hi m' hjson' htexts' hsame => ?_⟩
      obtain ⟨v, hv, hp⟩ := (hmem i).mp hi
      exact exists_report hjson' htexts' ⟨v, hsame.trans hv, hp⟩

/-- Entries of the general section of which two are wrong and one is not known. -/
def wrongGeneral : Mapping :=
  [(.text "log_level", .int 5), (.text "json_logs", .text "maybe"), (.text "color", .null)]

/-- Entries of the section on discovery that are wrong as a whole, in two items and in their name. -/
def wrongDiscovery : Mapping :=
  [(.text "extensions", .int 7), (.text "ignore_names", .list [.text "a", .int 1, .null]),
    (.text "extension", .text ".js")]

/-- A configuration with something wrong in every section. -/
def wrongEverywhere : Mapping :=
  [(.text "general", .map wrongGeneral), (.text "discovery", .map wrongDiscovery),
    (.text "processing", .text "utf-8")]

/-- What is wrong there, section by section. -/
def wrongEverywhereReport : List Issue := [
  ⟨[.field "general", .field "log_level"], .notText⟩,
  ⟨[.field "general", .field "json_logs"], .unreadableSwitch⟩,
  ⟨[.field "discovery", .field "extensions"], .notList⟩,
  ⟨[.field "discovery", .field "ignore_names", .index 1], .notText⟩,
  ⟨[.field "discovery", .field "ignore_names", .index 2], .notText⟩,
  ⟨[.field "discovery", .field "extension"], .unknownField⟩,
  ⟨[.field "processing"], .notSection .processing⟩]

theorem isJson_wrongEverywhere : (Data.map wrongEverywhere).IsJson := by
  have hgeneral : (Data.map wrongGeneral).IsJson := by
    refine .map (by simp [Mapping.ByText, wrongGeneral, Data.text?]) (by decide) ?_
    simp only [wrongGeneral, List.forall_mem_cons]
    exact ⟨.int 5, .text _, .null, List.forall_mem_nil _⟩
  have hitems : (Data.list [.text "a", .int 1, .null]).IsJson := by
    refine .list ?_
    simp only [List.forall_mem_cons]
    exact ⟨.text _, .int 1, .null, List.forall_mem_nil _⟩
  have hdiscovery : (Data.map wrongDiscovery).IsJson := by
    refine .map (by simp [Mapping.ByText, wrongDiscovery, Data.text?]) (by decide) ?_
    simp only [wrongDiscovery, List.forall_mem_cons]
    exact ⟨.int 7, hitems, .text _, List.forall_mem_nil _⟩
  refine .map (by simp [Mapping.ByText, wrongEverywhere, Data.text?]) (by decide) ?_
  simp only [wrongEverywhere, List.forall_mem_cons]
  exact ⟨hgeneral, hdiscovery, .text _, List.forall_mem_nil _⟩

/-- Everything that is wrong there is reported, and nothing else is; an entry that is not known makes
no difference. -/
theorem wrong_everywhere_reported :
    ¬ wrongEverywhere.Sound ∧
      ofData (.map wrongEverywhere) = .error (.invalid wrongEverywhereReport) ∧
      (∀ i, i ∈ wrongEverywhereReport ↔ wrongEverywhere.Offends i) ∧
      ofData (.map ((.text "logging", .null) :: wrongEverywhere)) = ofData (.map wrongEverywhere) := by
  have htexts : wrongEverywhere.TextExtensions := by
    intro xs hxs
    cases hxs
  have hread : ofData (.map wrongEverywhere) = .error (.invalid wrongEverywhereReport) := by
    decide
  obtain ⟨hsound, hreport, hsame⟩ := settings_report_exact isJson_wrongEverywhere htexts
  have hunsound : ¬ wrongEverywhere.Sound := by
    intro h
    obtain ⟨x, hx⟩ := hsound.mpr h
    rw [hread] at hx
    cases hx
  obtain ⟨is, his, -, hmem, -⟩ := hreport hunsound
  rw [hread] at his
  cases his
  refine ⟨hunsound, hread, hmem, hsame _ ?_ fun s => .inl ?_⟩
  · simp [Mapping.ByText, wrongEverywhere, Data.text?]
  · cases s <;> rfl

end Settings

end Handout
