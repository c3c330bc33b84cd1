import Handout.Config.Issue
import Handout.Config.Misuse
import Handout.Data.Comma
import Handout.Encoding.Utf8

/-!
# The settings

Three sections with a value for every field. `Settings.ofData` reads them from a configuration of
any shape: a field that is absent has its default, a field that is present is checked. A text may be
given as bytes, a switch as a text or a number, and a list of texts as one text with commas. Every
extension that comes in a list or in one text gets its point.

The general section and the top level pass over unknown fields; the other two sections refuse them.
An item of the extensions that is no text ends the reading at once, before any issue is reported.
-/

namespace Handout

/-- How events are logged. -/
structure GeneralSettings where
  logLevel : String
  logFile : Option String
  jsonLogs : Bool
  deriving DecidableEq, Repr

/-- Which files are candidates. -/
structure DiscoverySettings where
  extensions : List String
  ignoreNames : List String
  deriving DecidableEq, Repr

/-- How files are read and written. -/
structure ProcessingSettings where
  encoding : String
  deriving DecidableEq, Repr

/-- **The settings of the program.** -/
structure Settings where
  general : GeneralSettings
  discovery : DiscoverySettings
  processing : ProcessingSettings
  deriving DecidableEq, Repr

/-- The settings where nothing is configured. -/
def Settings.standard : Settings :=
  ⟨⟨"WARNING", none, false⟩, ⟨[".js", ".jsx"], ["node_modules", "bundle.js"]⟩, ⟨"utf-8"⟩⟩

/-- Why a configuration holds no settings. -/
inductive SettingsFault
  /-- The configuration is no mapping. -/
  | notMapping (kind : String)
  /-- A section's key is no text. -/
  | keyNotText
  /-- An extension is no text, of the kind given. -/
  | extensionNotText (kind : String)
  /-- An extension is given as bytes. -/
  | extensionInBytes
  | invalid (issues : List Issue)
  deriving DecidableEq, Repr

namespace Settings

/-! ## Fields -/

/-- A text field. -/
def text (place : List Step) : Data → Checked String
  | .text s => .ok s
  | .bytes b =>
    match Utf8.decode b with
    | .ok cs => .ok (String.ofList cs)
    | .error _ => .error [⟨place, .undecodable⟩]
  | _ => .error [⟨place, .notText⟩]

/-- A text field that may be empty. -/
def optionalText (place : List Step) : Data → Checked (Option String)
  | .null => .ok none
  | d => (text place d).map some

/-- The words that turn a switch on. -/
def onWords : List String := ["1", "on", "t", "true", "y", "yes"]

/-- The words that turn a switch off. -/
def offWords : List String := ["0", "off", "f", "false", "n", "no"]

/-- A switch given as a word, in any case of ASCII letters. -/
def switchWord (place : List Step) (word : String) : Checked Bool :=
  let w := String.ofList (word.toList.map Char.toLower)
  if w ∈ onWords then .ok true
  else if w ∈ offWords then .ok false
  else .error [⟨place, .unreadableSwitch⟩]

/-- A switch given as a number. -/
def switchNumber (place : List Step) (n : Int) : Checked Bool :=
  if n = 1 then .ok true
  else if n = 0 then .ok false
  else .error [⟨place, .unreadableSwitch⟩]

/-- The bound within which a number counts as one of a switch. -/
def switchBound : Int := Nat.pow 2 63

/-- A switch. -/
def switch (place : List Step) : Data → Checked Bool
  | .bool b => .ok b
  | .int n =>
    if -switchBound ≤ n ∧ n < switchBound then switchNumber place n
    else .error [⟨place, .notSwitch⟩]
  | .float x =>
    match x.toInt? with
    | some n =>
      if -switchBound < n ∧ n < switchBound then switchNumber place n
      else .error [⟨place, .notSwitch⟩]
    | none => .error [⟨place, .notSwitch⟩]
  | .text s => switchWord place s
  | .bytes b =>
    match Utf8.decode b with
    | .ok cs => switchWord place (String.ofList cs)
    | .error _ => .error [⟨place, .unreadableSwitch⟩]
  | _ => .error [⟨place, .notSwitch⟩]

/-- The texts of a list, each at its index. -/
def textsFrom (place : List Step) : Nat → List Data → List (Checked String)
  | _, [] => []
  | i, d :: ds => text (place ++ [.index i]) d :: textsFrom place (i + 1) ds

/-- A list of texts. The members of a set are taken latest first, which is one of the orders that they
may come in: a set has none that is fixed. -/
def texts (place : List Step) : Data → Checked (List String)
  | .list xs => Checked.all (textsFrom place 0 xs)
  | .tuple xs => Checked.all (textsFrom place 0 xs)
  | .set xs => Checked.all (textsFrom place 0 xs.reverse)
  | _ => .error [⟨place, .notList⟩]

/-- An extension with its point. -/
def dotted (extension : String) : String :=
  if extension.toList.head? = some '.' then extension else "." ++ extension

/-- The extensions before they are checked: those of a list get their point. -/
def dottedData : Data → Data
  | .list xs => .list (xs.map fun
    | .text s => .text (dotted s)
    | d => d)
  | d => d

/-- A field of a section: its default, or what is given for it, checked. -/
def field {α : Type} (s : Section) (m : Mapping) (name : String) (default : α)
    (check : List Step → Data → Checked α) : Checked α :=
  match m.field? name with
  | none => .ok default
  | some d => check [.field s.key, .field name] d

/-- The step that a key stands for in a place. -/
def keyStep : Data → Step
  | .text s => .field s
  | .bool b => .index (if b then 1 else 0)
  | .int n => if -switchBound ≤ n ∧ n < switchBound then .index n else .field (toString n)
  | d => .field d.literal

/-- The issues of the keys that a section does not know. -/
def unknownFields (s : Section) (known : List String) (m : Mapping) : List Issue :=
  m.filterMap fun e =>
    match e.1 with
    | .text name => if name ∈ known then none else some ⟨[.field s.key, .field name], .unknownField⟩
    | k => some ⟨[.field s.key, keyStep k], .keyNotText⟩

end Settings

/-! ## Sections -/

open Settings in
/-- The general section. -/
def GeneralSettings.ofMapping (m : Mapping) : Checked GeneralSettings :=
  let d := standard.general
  Checked.both (fun f x => f x)
    (Checked.both GeneralSettings.mk
      (field .general m "log_level" d.logLevel text)
      (field .general m "log_file" d.logFile optionalText))
    (field .general m "json_logs" d.jsonLogs switch)

open Settings in
/-- The section on discovery. -/
def DiscoverySettings.ofMapping (m : Mapping) : Checked DiscoverySettings :=
  let d := standard.discovery
  Checked.both (fun s _ => s)
    (Checked.both DiscoverySettings.mk
      (field .discovery m "extensions" d.extensions
        fun place v => texts place (dottedData (Comma.expand v)))
      (field .discovery m "ignore_names" d.ignoreNames
        fun place v => texts place (Comma.expand v)))
    (Checked.clear (unknownFields .discovery ["extensions", "ignore_names"] m) ())

open Settings in
/-- The section on processing. -/
def ProcessingSettings.ofMapping (m : Mapping) : Checked ProcessingSettings :=
  Checked.both (fun s _ => s)
    ((field .processing m "encoding" standard.processing.encoding text).map ProcessingSettings.mk)
    (Checked.clear (unknownFields .processing ["encoding"] m) ())

namespace Settings

/-- A section of a configuration: its default, or what is given for it, which must be a mapping. -/
def section? {α : Type} (s : Section) (m : Mapping) (default : α) (read : Mapping → Checked α) :
    Checked α :=
  match m.field? s.key with
  | none => .ok default
  | some (.map e) => read e
  | some _ => .error [⟨[.field s.key], .notSection s⟩]

/-- The settings of a mapping whose extensions are texts. -/
def ofMapping (m : Mapping) : Checked Settings :=
  Checked.both (fun f x => f x)
    (Checked.both Settings.mk
      (section? .general m standard.general GeneralSettings.ofMapping)
      (section? .discovery m standard.discovery DiscoverySettings.ofMapping))
    (section? .processing m standard.processing ProcessingSettings.ofMapping)

/-- What ends the reading at once: the first item of the extensions that is no text. -/
def firstNonText? (m : Mapping) : Option SettingsFault :=
  match m.field? Section.discovery.key with
  | some (.map d) =>
    match Mapping.field? d "extensions" with
    | some (.list xs) =>
      xs.findSome? fun
        | .text _ => none
        | .bytes _ => some .extensionInBytes
        | x => some (.extensionNotText x.kindWord)
    | _ => none
  | _ => none

/-- **The settings of a configuration.** -/
def ofData : Data → Except SettingsFault Settings
  | .map m =>
    if m.all (·.1.text?.isSome) then
      match firstNonText? m with
      | some fault => .error fault
      | none => (ofMapping m).mapError .invalid
    else .error .keyNotText
  | d => .error (.notMapping d.kindWord)

/-! ## Writing settings out -/

/-- A list of texts as a value. -/
def listData (xs : List String) : Data :=
  .list (xs.map .text)

/-- **The settings as a value**, every field present. -/
def toData (s : Settings) : Data :=
  .map [
    (.text "general", .map [
      (.text "log_level", .text s.general.logLevel),
      (.text "log_file", match s.general.logFile with
        | none => .null
        | some f => .text f),
      (.text "json_logs", .bool s.general.jsonLogs)]),
    (.text "discovery", .map [
      (.text "extensions", listData s.discovery.extensions),
      (.text "ignore_names", listData s.discovery.ignoreNames)]),
    (.text "processing", .map [(.text "encoding", .text s.processing.encoding)])]

end Settings

/-- The message of a settings fault; issues stand on a line each. -/
def SettingsFault.message : SettingsFault → String
  | .notMapping kind => "problemify.utils.config.Settings() argument after ** must be a mapping, not " ++ kind
  | .keyNotText => "keywords must be strings"
  | .extensionNotText kind => "'" ++ kind ++ "' object has no attribute 'startswith'"
  | .extensionInBytes => "startswith first arg must be bytes or a tuple of bytes, not str"
  | .invalid issues => "\n".intercalate (issues.map Issue.text)

end Handout
