import Handout.Proofs.NormalForm
import Handout.Proofs.Variables

/-!
# Settings given by one variable

Without files, one variable for a field that is a text or a list of texts is the whole configuration.
The settings then have its text in that field, and are the standard ones everywhere else, if the text
stands for itself (`Environment.Verbatim`). A text that reads as a switch or a number is read as one
before the field is looked at, and the field refuses it. There is no third case
(`settings_of_one_variable`).

So not every text can be given by a variable: `numeral_is_no_ignored_name`.
-/

namespace Handout

/-- A field that is a text, or a list of texts that may be given as one. -/
inductive TextField
  | logLevel
  | logFile
  | ignoreNames
  | encoding

namespace TextField

/-- The section that a field is in. -/
def part : TextField → Section
  | .logLevel => .general
  | .logFile => .general
  | .ignoreNames => .discovery
  | .encoding => .processing

/-- The key of a field. -/
def key : TextField → String
  | .logLevel => "log_level"
  | .logFile => "log_file"
  | .ignoreNames => "ignore_names"
  | .encoding => "encoding"

/-- The variable for a field. -/
def variableName : TextField → String
  | .logLevel => "PROBLEMIFY_GENERAL__LOG_LEVEL"
  | .logFile => "PROBLEMIFY_GENERAL__LOG_FILE"
  | .ignoreNames => "PROBLEMIFY_DISCOVERY__IGNORE_NAMES"
  | .encoding => "PROBLEMIFY_PROCESSING__ENCODING"

open Settings in
/-- **The settings with a text for a field**, and the standard ones for the others. -/
def settings : TextField → String → Settings
  | .logLevel, t => { standard with general.logLevel := t }
  | .logFile, t => { standard with general.logFile := some t }
  | .ignoreNames, t => { standard with discovery.ignoreNames := Comma.split t }
  | .encoding, t => { standard with processing.encoding := t }

/-- What is wrong with a switch or a number for a field. -/
def refusal (f : TextField) : Issue :=
  ⟨[.field f.part.key, .field f.key],
    match f with
    | .ignoreNames => .notList
    | _ => .notText⟩

/-- The configuration with a value for a field, and nothing else. -/
def only (f : TextField) (d : Data) : Data :=
  .map [(.text f.part.key, .map [(.text f.key, d)])]

theorem keyPath?_variableName (f : TextField) :
    Environment.keyPath? f.variableName = some [f.part.key, f.key] := by
  cases f <;> decide

/-- A text for a field is accepted as it is. -/
theorem ofData_only_text (f : TextField) (t : String) :
    Settings.ofData (f.only (.text t)) = .ok (f.settings t) := by
  cases f with
  | ignoreNames =>
    refine Settings.ofData_eq_ok.mpr ⟨_, rfl, ?_, ?_, Settings.ofMapping_eq_ok.mpr ⟨rfl, ?_, rfl⟩⟩
    · exact fun e he => List.mem_singleton.mp he ▸ rfl
    · exact fun xs hxs => nomatch hxs
    · exact congrArg (Checked.both (fun s _ => s) · (.ok ()))
        (congrArg (Checked.both DiscoverySettings.mk (.ok _)) (Settings.texts_listData _ (Comma.split t)))
  | _ => rfl

/-- A switch or a number for a field is refused. -/
theorem ofData_only_other (f : TextField) {d : Data}
    (hd : (∃ b, d = .bool b) ∨ (∃ n, d = .int n) ∨ ∃ x, d = .float x) :
    Settings.ofData (f.only d) = .error (.invalid [f.refusal]) := by
  rcases hd with ⟨b, rfl⟩ | ⟨n, rfl⟩ | ⟨x, rfl⟩ <;> cases f <;> rfl

end TextField

namespace Config

open Act Environment Shared

variable {s : Session} {w : World} {dir : Path} {before after : Environment}
  {v : String × String} {k l : String} {value : String}

/-- The one variable with a key path makes the whole configuration. -/
theorem overrideAll_of_only (hv : keyPath? v.1 = some [k, l])
    (honly : ∀ u ∈ before ++ after, keyPath? u.1 = none) :
    nothing.overrideAll (before ++ v :: after) =
      .ok (.map none [(.text k, .map none [(.text l, .ofData (coerce v.2))])]) := by
  obtain ⟨hbefore, hafter⟩ := List.forall_mem_append.mp honly
  rw [overrideAll_append, overrideAll_of_none _ hbefore, Except.bind, nothing,
    overrideAll_cons _ _ hv, overrideAll_of_none _ hafter]
  rfl

/-- Without files, the settings are those of the one field that a variable is for. -/
theorem exec_settings_of_only (f : TextField) (hs : s.settings = none)
    (hdir : directory.exec s w = (.ok dir, s, w))
    (hshared : w.holds (dir.child sharedName) (fun _ => true) = .ok false)
    (hlocal : w.holds (dir.child localName) (fun _ => true) = .ok false)
    (henv : w.environment = before ++ (f.variableName, value) :: after)
    (honly : ∀ u ∈ before ++ after, keyPath? u.1 = none) :
    (settings.exec s w).1 = (Settings.ofData (f.only (coerce value))).mapError .settings := by
  have hall := overrideAll_of_only (v := (f.variableName, value)) f.keyPath?_variableName honly
  have hconfig := exec_configuration_of_absent hdir hshared hlocal
  rw [henv, hall] at hconfig
  rw [exec_settings_eq hs hconfig]
  simp only [Except.map, Except.mapError, Except.bind, data, mapping, data_ofData]
  rfl

/-- **Settings given by one variable.** There are no files, and one variable has a key path, to a field
that is a text or a list of texts. If its text stands for itself, the settings have it in that field and
are the standard ones everywhere else; if not, that field is refused, and nothing else. -/
theorem settings_of_one_variable (f : TextField) (value : String) (hs : s.settings = none)
    (hdir : directory.exec s w = (.ok dir, s, w))
    (hshared : w.holds (dir.child sharedName) (fun _ => true) = .ok false)
    (hlocal : w.holds (dir.child localName) (fun _ => true) = .ok false)
    (henv : w.environment = before ++ (f.variableName, value) :: after)
    (honly : ∀ u ∈ before ++ after, keyPath? u.1 = none) :
    (Verbatim value → (settings.exec s w).1 = .ok (f.settings value)) ∧
      (¬ Verbatim value → (settings.exec s w).1 = .error (.settings (.invalid [f.refusal]))) := by
  rw [exec_settings_of_only f hs hdir hshared hlocal henv honly]
  constructor
  · intro hvalue
    rw [coerce_of_verbatim hvalue, f.ofData_only_text]
    rfl
  · intro hvalue
    rw [f.ofData_only_other (coerce_of_not_verbatim hvalue)]
    rfl

/-- A world without files, with a variable for the names that are ignored. -/
def ignoring (value : String) : World :=
  Run.plainUnder [("HOME", "/"), ("PROBLEMIFY_DISCOVERY__IGNORE_NAMES", value),
    ("PROBLEMIFY_CONFIG_DIR", "etc")] .empty

/-- Such a world has no files of the configuration, and one variable with a key path. -/
theorem only_ignoring (value : String) :
    directory.exec .start (ignoring value) = (.ok (Path.ofText "etc"), .start, ignoring value) ∧
      (ignoring value).holds ((Path.ofText "etc").child sharedName) (fun _ => true) = .ok false ∧
      (ignoring value).holds ((Path.ofText "etc").child localName) (fun _ => true) = .ok false ∧
      (ignoring value).environment = [("HOME", "/")] ++
        (TextField.ignoreNames.variableName, value) :: [("PROBLEMIFY_CONFIG_DIR", "etc")] ∧
      ∀ u ∈ [("HOME", "/")] ++ [("PROBLEMIFY_CONFIG_DIR", "etc")], keyPath? u.1 = none :=
  ⟨rfl, rfl, rfl, rfl, by decide⟩

theorem settings_of_ignored_names :
    (settings.exec .start (ignoring "build, 2024,")).1 =
      .ok { Settings.standard with discovery.ignoreNames := ["build", "2024"] } := by
  obtain ⟨hdir, hshared, hlocal, henv, honly⟩ := only_ignoring "build, 2024,"
  have hsplit : Comma.split "build, 2024," = ["build", "2024"] := by decide
  rw [(settings_of_one_variable .ignoreNames "build, 2024," rfl hdir hshared hlocal henv honly).1
    (by decide), TextField.settings, hsplit]

/-- **A numeral is no ignored name.** It reads as a number, and the list of names refuses that. -/
theorem numeral_is_no_ignored_name :
    Comma.split "2024" = ["2024"] ∧
      (settings.exec .start (ignoring "2024")).1 =
        .error (.settings (.invalid [⟨[.field "discovery", .field "ignore_names"], .notList⟩])) := by
  obtain ⟨hdir, hshared, hlocal, henv, honly⟩ := only_ignoring "2024"
  have hvalue : ¬ Verbatim "2024" := by decide
  refine ⟨by decide, ?_⟩
  rw [exec_settings_of_only .ignoreNames rfl hdir hshared hlocal henv honly,
    TextField.ofData_only_other _ (coerce_of_not_verbatim hvalue)]
  rfl

end Config

end Handout
