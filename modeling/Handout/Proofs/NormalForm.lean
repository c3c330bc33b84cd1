import Handout.Proofs.Shapes

/-!
# The normal form of settings

Settings that are accepted can be written out as a value and read back. What comes back is the same but
for the extensions, each of which gets its point where it has none (`ofData_toData`). So reading back
changes nothing just when every extension has its point; and every extension has it where the
extensions were given as a list or in one text, which are the two shapes that the points are put into
(`settings_accepted_normal`).

**What it does not establish.** A set of texts is accepted as it is, and so are the extensions in it:
`set_keeps_bare_extension`.
-/

namespace Handout

/-! ## Checks that succeed -/

namespace Checked

variable {α β γ : Type} {f : α → β → γ} {x : Checked α} {y : Checked β} {c : γ}

theorem both_eq_ok : both f x y = .ok c ↔ ∃ a b, x = .ok a ∧ y = .ok b ∧ f a b = c := by
  cases x <;> cases y <;> simp [both]

theorem all_map_ok (xs : List α) : all (xs.map .ok) = .ok xs := by
  induction xs with
  | nil => rfl
  | cons a xs ih => rw [List.map_cons, all, ih, both]

end Checked

namespace Settings

open Checked (both_eq_ok)

variable {place : List Step} {d : Data} {m : Mapping} {x : Settings} {e : String} {ts us : List String}

/-! ## Lists of texts -/

theorem textsFrom_listData (place : List Step) (i : Nat) (ts : List String) :
    textsFrom place i (ts.map .text) = ts.map .ok := by
  induction ts generalizing i with
  | nil => rfl
  | cons t ts ih => rw [List.map_cons, textsFrom, ih, List.map_cons, text]

/-- A list of texts is what it says. -/
theorem texts_listData (place : List Step) (ts : List String) :
    texts place (listData ts) = .ok ts := by
  rw [listData, texts, textsFrom_listData, Checked.all_map_ok]

theorem exists_listData {xs : List Data} (h : ∀ x ∈ xs, x.text?.isSome = true) :
    ∃ ts, Data.list xs = listData ts := by
  induction xs with
  | nil => exact ⟨[], rfl⟩
  | cons x xs ih =>
    obtain ⟨hx, hxs⟩ := List.forall_mem_cons.mp h
    obtain ⟨t, ht⟩ := Option.isSome_iff_exists.mp hx
    obtain ⟨ts, hts⟩ := ih hxs
    refine ⟨t :: ts, ?_⟩
    rw [Data.text?_eq_some.mp ht, Data.list.inj hts]
    rfl

theorem dottedData_listData (ts : List String) :
    dottedData (listData ts) = listData (ts.map dotted) := by
  rw [listData, dottedData, listData, List.map_map, List.map_map]
  rfl

/-! ## Points -/

/-- An extension with its point. -/
def Pointed (e : String) : Prop :=
  e.toList.head? = some '.'

instance (e : String) : Decidable (Pointed e) :=
  inferInstanceAs (Decidable (_ = _))

theorem pointed_dotted (e : String) : Pointed (dotted e) := by
  rw [dotted]
  split
  next h => exact h
  next => simp [Pointed]

theorem dotted_of_pointed (h : Pointed e) : dotted e = e :=
  if_pos h

/-- The settings with a point for every extension. -/
def withPoints (x : Settings) : Settings :=
  { x with discovery.extensions := x.discovery.extensions.map dotted }

theorem withPoints_eq_self_iff : x.withPoints = x ↔ ∀ e ∈ x.discovery.extensions, Pointed e := by
  constructor
  · intro h e he
    rw [← h] at he
    obtain ⟨e', -, rfl⟩ := List.mem_map.mp he
    exact pointed_dotted e'
  · intro h
    have hsame : x.discovery.extensions.map dotted = x.discovery.extensions :=
      (List.map_congr_left fun e he => dotted_of_pointed (h e he)).trans (List.map_id _)
    rw [withPoints, hsame]

/-! ## Accepted configurations -/

/-- A field that is accepted is not there, or it is what is given for it. -/
theorem field_eq_ok {α : Type} {s : Section} {name : String} {default a : α}
    {check : List Step → Data → Checked α} :
    field s m name default check = .ok a ↔
      (Mapping.field? m name = none ∧ default = a) ∨
        ∃ v, Mapping.field? m name = some v ∧ check [.field s.key, .field name] v = .ok a := by
  rw [field]
  cases Mapping.field? m name <;> simp

/-- A section that is accepted is not there, or it is a mapping that is accepted. -/
theorem section?_eq_ok {α : Type} {s : Section} {default a : α} {read : Mapping → Checked α} :
    (section? s m default read) = .ok a ↔
      (Mapping.field? m s.key = none ∧ default = a) ∨
        ∃ fs, Mapping.field? m s.key = some (.map fs) ∧ read fs = .ok a := by
  rw [section?]
  rcases Mapping.field? m s.key with _ | d
  · simp
  · cases d <;> simp

theorem ofMapping_eq_ok : ofMapping m = .ok x ↔
    (section? .general m standard.general GeneralSettings.ofMapping) = .ok x.general ∧
    (section? .discovery m standard.discovery DiscoverySettings.ofMapping) = .ok x.discovery ∧
    (section? .processing m standard.processing ProcessingSettings.ofMapping) = .ok x.processing := by
  rw [ofMapping, both_eq_ok]
  constructor
  · rintro ⟨f, p, hf, hp, rfl⟩
    obtain ⟨g, s, hg, hs, rfl⟩ := both_eq_ok.mp hf
    exact ⟨hg, hs, hp⟩
  · rintro ⟨hg, hs, hp⟩
    exact ⟨_, _, both_eq_ok.mpr ⟨_, _, hg, hs, rfl⟩, hp, rfl⟩

/-- A mapping with texts for keys is read field by field, where the extensions let it. -/
theorem ofData_of_textExtensions (hkeys : m.ByText) (htexts : m.TextExtensions) :
    ofData (.map m) = (ofMapping m).mapError .invalid := by
  rw [ofData, if_pos (List.all_eq_true.mpr hkeys), firstNonText?_eq_none.mpr htexts]

/-- **What is accepted** is a mapping with texts for keys, extensions that are no list with anything
but texts in it, and sections that are accepted. -/
theorem ofData_eq_ok :
    ofData d = .ok x ↔ ∃ m : Mapping, d = .map m ∧ m.ByText ∧ m.TextExtensions ∧ ofMapping m = .ok x := by
  constructor
  · intro h
    obtain ⟨m, rfl, hkeys, hext⟩ := reported_ofData.mp (.inl ⟨x, by rw [h]; rfl⟩)
    refine ⟨m, rfl, hkeys, hext, ?_⟩
    rw [ofData_of_textExtensions hkeys hext] at h
    exact Except.mapError_eq_ok.mp h
  · rintro ⟨m, rfl, hkeys, hext, h⟩
    rw [ofData_of_textExtensions hkeys hext, h]
    rfl

/-! ## Settings read back -/

/-- **Settings that are written out are read back** with a point for every extension, and else as they
are. -/
theorem ofData_toData (x : Settings) : ofData x.toData = .ok x.withPoints := by
  obtain ⟨⟨level, file, json⟩, ⟨extensions, names⟩, ⟨encoding⟩⟩ := x
  refine ofData_eq_ok.mpr ⟨_, rfl, ?_, ?_, ofMapping_eq_ok.mpr ⟨?_, ?_, rfl⟩⟩
  · simp [Mapping.ByText, Data.text?]
  · intro xs hxs y hy
    cases hxs
    obtain ⟨t, -, rfl⟩ := List.mem_map.mp hy
    rfl
  · cases file <;> rfl
  · have hextensions (place : List Step) :
        texts place (dottedData (listData extensions)) = .ok (extensions.map dotted) := by
      rw [dottedData_listData, texts_listData]
    exact congrArg₂ (Checked.both fun s _ => s)
      (congrArg₂ (Checked.both DiscoverySettings.mk) (hextensions _) (texts_listData _ names)) rfl

/-! ## Settings that are accepted -/

/-- Extensions that are given, if they are, as a list or in one text. -/
def ListedExtensions (d : Data) : Prop :=
  ∀ (m : Mapping) v, d = .map m → m.at? "discovery" "extensions" = some v →
    (∃ t, v = .text t) ∨ ∃ xs, v = .list xs

/-- Extensions that come in a list of texts or in one text get their points. -/
theorem pointed_of_texts {v : Data} (h : texts place (dottedData (Comma.expand v)) = .ok us)
    (hv : ∃ ts, Comma.expand v = listData ts) : ∀ e ∈ us, Pointed e := by
  obtain ⟨ts, hts⟩ := hv
  rw [hts, dottedData_listData, texts_listData] at h
  cases h
  intro e he
  obtain ⟨e', -, rfl⟩ := List.mem_map.mp he
  exact pointed_dotted e'

/-- The extensions of a section are the standard ones, or they are read from what is given. -/
theorem extensions_of_section {s : DiscoverySettings}
    (h : section? .discovery m standard.discovery DiscoverySettings.ofMapping = .ok s) :
    (m.at? "discovery" "extensions" = none ∧ s.extensions = standard.discovery.extensions) ∨
    ∃ v, m.at? "discovery" "extensions" = some v ∧
      texts [.field "discovery", .field "extensions"] (dottedData (Comma.expand v)) =
        .ok s.extensions := by
  rw [Mapping.at?]
  rcases section?_eq_ok.mp h with ⟨hnone, rfl⟩ | ⟨fs, hfs, hread⟩
  · rw [Section.key] at hnone
    rw [hnone]
    exact .inl ⟨rfl, rfl⟩
  · rw [Section.key] at hfs
    rw [DiscoverySettings.ofMapping] at hread
    obtain ⟨t, -, ht, -, rfl⟩ := both_eq_ok.mp hread
    obtain ⟨us, -, hus, -, rfl⟩ := both_eq_ok.mp ht
    rw [hfs]
    rcases field_eq_ok.mp hus with ⟨hnone, rfl⟩ | ⟨v, hv, hus⟩
    · exact .inl ⟨hnone, rfl⟩
    · exact .inr ⟨v, hv, hus⟩

/-- **The normal form of settings that are accepted.** Writing them out and reading them back changes
nothing just when every extension has its point, and every extension has it where the extensions are
given as a list or in one text. -/
theorem settings_accepted_normal (h : ofData d = .ok x) :
    (ofData x.toData = .ok x ↔ ∀ e ∈ x.discovery.extensions, Pointed e) ∧
      (ListedExtensions d → ∀ e ∈ x.discovery.extensions, Pointed e) := by
  constructor
  · rw [ofData_toData, Except.ok.injEq, withPoints_eq_self_iff]
  · intro hlisted
    obtain ⟨m, rfl, -, htexts, hx⟩ := ofData_eq_ok.mp h
    rcases extensions_of_section (ofMapping_eq_ok.mp hx).2.1 with ⟨-, hstandard⟩ | ⟨v, hv, hread⟩
    · rw [hstandard]
      decide
    · refine pointed_of_texts hread ?_
      rcases hlisted m v rfl hv with ⟨t, rfl⟩ | ⟨xs, rfl⟩
      · exact ⟨Comma.split t, rfl⟩
      · exact exists_listData (htexts xs hv)

/-- A configuration with a text for the extensions, bytes for a text and a word for a switch. -/
def textExtensions : Data := .map [
  (.text "general", .map [(.text "log_file", .bytes [0x61]), (.text "json_logs", .text "ON")]),
  (.text "discovery", .map [(.text "extensions", .text "js, .jsx,")])]

/-- The settings of that configuration. -/
def textExtensionsRead : Settings :=
  { standard with
    general := ⟨"WARNING", some "a", true⟩
    discovery.extensions := [".js", ".jsx"] }

theorem text_extensions_accepted_normal :
    ofData textExtensions = .ok textExtensionsRead ∧
      ofData textExtensionsRead.toData = .ok textExtensionsRead := by
  have hread : ofData textExtensions = .ok textExtensionsRead := by decide
  have hlisted : ListedExtensions textExtensions := by
    intro m v hm hv
    cases hm
    exact .inl ⟨_, (Option.some.inj hv).symm⟩
  obtain ⟨hsame, hpointed⟩ := settings_accepted_normal hread
  exact ⟨hread, hsame.mpr (hpointed hlisted)⟩

/-- A document that gives the extensions as a set of one text. -/
def setDocument : String :=
  "\"discovery\":\n  \"extensions\": !!set \x7b\"js\"\x7d\n"

/-- The tokens of that document. -/
def setTokens : List Yaml.Token := [
  .blockMapping, .key, .scalar "discovery".toList false, .value, .blockMapping,
  .key, .scalar "extensions".toList false, .value, .tag (some ['!', '!']) ['s', 'e', 't'],
  .flowMapping, .scalar ['j', 's'] false, .flowMappingEnd, .blockEnd, .blockEnd, .streamEnd]

/-- What that document says. -/
def setExtensions : Data :=
  .map [(.text "discovery", .map [(.text "extensions", .set [.text "js"])])]

open Yaml in
theorem document_setDocument :
    (document Config.sharedName setDocument.toList).map Shared.data = .ok setExtensions := by
  have hchars : (plainBreaks setDocument.toList).all isDocumentChar = true := by decide +kernel
  have htokens : Token.ofText (plainBreaks setDocument.toList) = .ok setTokens := by decide +kernel
  have hnode : Node.ofTokens Config.sharedName setTokens =
      .ok (some (.mapping ⟨Config.sharedName, 15⟩ .map [(.scalar .text "discovery".toList,
        .mapping ⟨Config.sharedName, 11⟩ .map [(.scalar .text "extensions".toList,
          .mapping ⟨Config.sharedName, 6⟩ .set [(.scalar .text ['j', 's'], .scalar .null [])])])])) := by
    cbv
  simp only [document, hchars, Bool.not_true, Bool.false_eq_true, if_false, htokens, bind,
    Except.bind, hnode]
  rfl

/-- **A set keeps a bare extension.** The settings are accepted with an extension that has no point, and
reading them back changes them. -/
theorem set_keeps_bare_extension :
    (Yaml.document Config.sharedName setDocument.toList).map Shared.data = .ok setExtensions ∧
      ∃ x, ofData setExtensions = .ok x ∧ x.discovery.extensions = ["js"] ∧ ¬ Pointed "js" ∧
        ofData x.toData ≠ .ok x :=
  ⟨document_setDocument, { standard with discovery.extensions := ["js"] }, by decide +kernel, rfl,
    by decide +kernel, by decide +kernel⟩

end Settings

end Handout
