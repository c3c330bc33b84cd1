import Handout.Config.Merge
import Handout.Session
import Handout.Yaml.Document

/-!
# Sources of the settings

The settings come from two files in the configuration directory and from the environment. The file
for everyone holds the configuration itself; the file for one machine may hold an override of it
under one key; variables come last. A file that is missing, or whose document is empty, says nothing.
A mapping with aliases in a file is one mapping, so that a variable changes it everywhere.

Settings that were loaded are kept in the session, so that later changes of a source do not show. A
source that is at fault is read again the next time.
-/

namespace Handout

namespace Config

/-- The configuration directory where no variable names one. -/
def standardDirectory : String := "config"

/-- The file for everyone. -/
def sharedName : String := "settings.yaml"

/-- The file for one machine. -/
def localName : String := "local.yaml"

/-- The key of the override in the file for one machine. -/
def overrideKey : String := "settings"

/-- Whether a text holds another one. -/
def holdsText (part : List Char) : List Char → Bool
  | [] => part.isEmpty
  | c :: r => part.isPrefixOf (c :: r) || holdsText part r

/-- Whether a value holds a text as a member: a key of a mapping, an item, or a part of a text. -/
def hasMember (d : Data) (name : String) : Except Misuse Bool :=
  match d with
  | .map m => .ok (Mapping.field? m name).isSome
  | .list xs | .tuple xs | .set xs => .ok (xs.any fun x => x.sameKey (.text name))
  | .text s => .ok (holdsText name.toList s.toList)
  | .bytes _ => .error .membersOfBytes
  | d => .error (.noMembers d.kindWord)

/-- What a value has under a name. -/
def member (s : Shared) (name : String) : Except Misuse Shared :=
  match s with
  | .map _ es => .ok ((Shared.get? es (.text name)).getD (.ofData .null))
  | s =>
    match s.data with
    | .list _ | .tuple _ => .error (.listAt "str")
    | .text _ => .error (.textAt "str")
    | d => .error (.noItems d.kindWord)

/-- **A configuration under the override of one machine**, where there is one. -/
def override (config machine : Shared) : Except Misuse Shared := do
  if ← hasMember machine.data overrideKey then config.merge? (← member machine overrideKey)
  else return config

/-- The mapping that says nothing. -/
def nothing : Shared := .map none []

/-- The value of a file's bytes; one that counts as absent is the empty mapping. -/
def ofBytes (file : String) (bytes : List UInt8) : Except Stop Shared :=
  match Utf8.decodeInPieces bytes with
  | .error f => .error (.undecodable f)
  | .ok text =>
    match Yaml.document file text with
    | .error f => .error (.document f)
    | .ok s => .ok (if s.data.isEmpty then nothing else s)

/-- The value of a file in a directory, or the empty mapping where there is none. -/
def readFile (dir : Path) (name : String) : Act Shared := do
  let p := dir.child name
  match ← Act.call (.present p) with
  | .error e => throw (.system e p.text)
  | .ok false => return nothing
  | .ok true =>
    match ← Act.call (.read p) with
    | .error e => throw (.system e p.text)
    | .ok bytes => Act.ofExcept (ofBytes name bytes)

/-- The configuration directory. -/
def directory : Act Path := do
  let env ← Act.call .environment
  return Path.ofText ((Environment.get? env Environment.directoryName).getD standardDirectory)

/-- **The configuration of the files** in a directory, its mappings told apart. -/
def files (dir : Path) : Act Shared := do
  let config ← readFile dir sharedName
  let machine ← readFile dir localName
  Act.ofExcept ((override config machine).mapError .misuse)

/-- The configuration of the files in a directory, as it reads. -/
def ofFiles (dir : Path) : Act Data := do
  return (← files dir).data

/-- **The configuration**: that of the files, under the environment. -/
def configuration : Act Data := do
  let config ← files (← directory)
  let env ← Act.call .environment
  Act.ofExcept (((config.overrideAll env).map Shared.data).mapError .misuse)

/-- **The settings**, loaded unless they were loaded before. -/
def settings : Act Settings := do
  match (← get).settings with
  | some s => return s
  | none =>
    let config ← configuration
    let s ← Act.ofExcept ((Settings.ofData config).mapError .settings)
    modify fun t => { t with settings := some s }
    return s

end Config

end Handout
