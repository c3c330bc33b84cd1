import Handout.Log.Setup

/-!
# Discovery

The candidate files below a root: a walk into the depth, the entries of a directory in the order of
their names, directories walked where they stand. An entry with an ignored name is passed over with
everything below it; a file is a candidate when its suffix is wanted. Links are followed.

The walk ends because paths do: each directory on the way makes the path longer, and the system
refuses paths of `World.mostPathBytes`. A directory deeper than that is refused in the same words.
-/

namespace Handout

/-- Which entries a walk takes. -/
structure Selection where
  extensions : List String
  ignored : List String
  deriving DecidableEq, Repr

namespace Discovery

/-- The name that this part of the program logs under. -/
def logger : String := "problemify.discovery"

/-- The stop of an operation on a path. -/
def fail {α : Type} (p : Path) (o : Operation) (e : OsError) : Act α :=
  throw (.failure ⟨p, o, e.reason⟩)

/-- The candidates at an entry that is not ignored. -/
def visit (sel : Selection) (descend : Path → Act (List Path)) (p : Path) : Act (List Path) := do
  match ← Act.call (.isDirectory p) with
  | .error e => fail p .stat e
  | .ok true => descend p
  | .ok false =>
    if sel.extensions.contains (Path.suffixOf p.name) then
      if ← Act.call (.isFile p) then return [p] else return []
    else return []

/-- The candidates among entries of a directory, given how to walk a directory below it. -/
def visitAll (sel : Selection) (descend : Path → Act (List Path)) (p : Path) :
    List String → Act (List Path)
  | [] => return []
  | n :: r => do
    if sel.ignored.contains n then visitAll sel descend p r
    else
      let found ← visit sel descend (p.child n)
      return found ++ (← visitAll sel descend p r)

/-- Names in the order of their characters. -/
def sorted (names : List String) : List String :=
  names.mergeSort fun a b => a ≤ b

/-- The candidates below a directory, walked to a depth. -/
def walk (sel : Selection) : Nat → Path → Act (List Path)
  | 0, p => fail p .list .nameTooLong
  | depth + 1, p => do
    match ← Act.call (.list p) with
    | .error e => fail p .list e
    | .ok names => visitAll sel (walk sel depth) p (sorted names)

end Discovery

/-- **The candidate files below a root**, those of the settings where nothing else is asked for. -/
def discover (root : Path) (extensions ignored : Option (List String)) : Act (List Path) := do
  let standard := (← Config.settings).discovery
  let sel : Selection :=
    ⟨extensions.getD standard.extensions, ignored.getD standard.ignoreNames⟩
  let found ← Discovery.walk sel World.mostPathBytes root
  Log.event Discovery.logger .debug "discovery_completed"
    [("root", .text root.text), ("count", .int found.length)]
  return found

end Handout
