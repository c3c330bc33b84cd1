import Handout.Config.Misuse
import Handout.Data.Shared
import Handout.Number.Numeral
import Handout.Text.Case

/-!
# The environment, and its overrides

The environment is a list of variables in the order in which they were set. Each variable whose name
begins with `Environment.marker` names a key path, its parts in lower case and apart by two
underscores, and gives the value at its end. Mappings are made on the way where there are none, and
the value shows wherever the mapping that takes it stands.

A value is `true` or `false` in any case of letters, a fraction where it has a point, an integer, or
else the text that it is.
-/

namespace Handout

/-- Variables and their values, in the order in which they were set. -/
abbrev Environment := List (String × String)

namespace Environment

/-- What the names of overriding variables begin with. -/
def marker : String := "PROBLEMIFY_"

/-- The variable that names the directory of the configuration files; it overrides nothing. -/
def directoryName : String := "PROBLEMIFY_CONFIG_DIR"

/-- The environment without a variable. -/
def unset (env : Environment) (name : String) : Environment :=
  env.filter (·.1 ≠ name)

/-- The environment with a variable set last. -/
def set (env : Environment) (name value : String) : Environment :=
  env.unset name ++ [(name, value)]

/-- The environment of variables set one after the other. -/
def ofList (vars : List (String × String)) : Environment :=
  vars.foldl (fun env v => set env v.1 v.2) []

/-- The value of a variable. -/
def get? (env : Environment) (name : String) : Option String :=
  env.lookup name

/-- What follows a given start of a text. -/
def afterStart? : List Char → List Char → Option (List Char)
  | [], r => some r
  | _ :: _, [] => none
  | p :: ps, c :: r => if p = c then afterStart? ps r else none

/-- The parts of a text between pairs of underscores, the first part so far given last first. -/
def splitParts : List Char → List Char → List (List Char)
  | part, [] => [part.reverse]
  | part, '_' :: '_' :: r => part.reverse :: splitParts [] r
  | part, c :: r => splitParts (c :: part) r

/-- **The key path of a variable**, where it overrides anything. -/
def keyPath? (name : String) : Option (List String) :=
  if name = directoryName then none
  else (afterStart? marker.toList name.toList).map fun r =>
    (splitParts [] (LowerCase.fold r)).map String.ofList

/-- **The value that a text stands for.** -/
def coerce (value : String) : Data :=
  let cs := value.toList
  let low := String.ofList (LowerCase.fold cs)
  if low = "true" then .bool true
  else if low = "false" then .bool false
  else if cs.contains '.' then
    match Numeral.fraction? cs with
    | some x => .float x
    | none => .text value
  else
    match Numeral.integer cs with
    | .ok n => .int n
    | .error _ => .text value

end Environment

/-- A value that is no mapping, given a value at a key path. -/
def Data.refusePut (d : Data) : List String → Misuse
  | _ :: _ :: _ => .noOperation d.kindWord "get"
  | _ =>
    match d with
    | .list _ => .listAt "str"
    | d => .takesNoItems d.kindWord

/-- A configuration under one variable. -/
def Shared.overrideBy (config : Shared) (name value : String) : Except Misuse Shared :=
  match Environment.keyPath? name with
  | none => .ok config
  | some path =>
    match config with
    | .map mark es => .ok (.map mark (Shared.write es path (.ofData (Environment.coerce value))))
    | s => .error (s.data.refusePut path)

/-- **A configuration under an environment**: its variables in order, so that the last one stands. -/
def Shared.overrideAll (config : Shared) (env : Environment) : Except Misuse Shared :=
  env.foldlM (fun config v => config.overrideBy v.1 v.2) config

/-- A configuration under an environment, where nothing stands in several places. -/
def Data.overrideAll (config : Data) (env : Environment) : Except Misuse Data :=
  ((Shared.ofData config).overrideAll env).map Shared.data

end Handout
