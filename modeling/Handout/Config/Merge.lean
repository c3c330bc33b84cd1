import Handout.Config.Misuse
import Handout.Data.Shared

/-!
# Merging configurations

An override laid over a base replaces the values that it names and keeps the rest. Where both hold a
mapping at a key, the mappings are merged in turn, which makes a new mapping; anywhere else the value
of the override stands, and so does every value of the base that is not named. `Shared.mergeEntries`
is that rule on mappings, and `Shared.override` is its step at one key.

`Shared.merge?` and `Data.merge?` take values of any shape. A base that is a list accepts numbers as
keys, and every other shape is refused where it is first used as a mapping.

**A limit.** Values end, and so does their merging. Two mappings that hold themselves under one key
would be merged without end, until the depth of calls is used up; no file is read as such a value here.
-/

namespace Handout

mutual

/-- **A value laid over another one.** -/
def Shared.override : Shared → Option Shared → Shared
  | .map _ layer, some (.map _ base) => .map none (Shared.mergeEntries layer base)
  | .map mark layer, _ => .map mark layer
  | s, _ => s
  termination_by structural s => s

/-- The entries of an override laid over a base, one after the other. -/
def Shared.mergeEntries : List (Data × Shared) → Shared.Entries → Shared.Entries
  | [], base => base
  | (k, v) :: r, base => Shared.mergeEntries r (Shared.put base k (v.override (Shared.get? base k)))
  termination_by structural es => es

end

/-- A mapping laid over a base, where neither stands anywhere else. -/
def Mapping.merge (base layer : Mapping) : Mapping :=
  Shared.mapping (Shared.mergeEntries (Shared.ofMapping layer) (Shared.ofMapping base))

/-- The place that a key names in a list of so many items; negative numbers count from the end. -/
def listPlace? (size : Nat) (n : Int) : Option Nat :=
  let i := if n < 0 then n + size else n
  if 0 ≤ i ∧ i < size then some i.toNat else none

/-- The item of a list at a key. -/
def listItem (xs : List Data) (k : Data) : Except Misuse Data :=
  match k with
  | .bool _ | .int _ =>
    match (k.integer?.bind (listPlace? xs.length)).bind (xs[·]?) with
    | some x => .ok x
    | none => .error .listBeyond
  | k => .error (.listAt k.kindWord)

/-- A list with an item set at a key. -/
def listPut (xs : List Data) (k v : Data) : Except Misuse (List Data) :=
  match k with
  | .bool _ | .int _ =>
    match k.integer?.bind (listPlace? xs.length) with
    | some i => .ok (xs.set i v)
    | none => .error .listPutBeyond
  | k => .error (.listAt k.kindWord)

/-- One entry of an override laid over a list. -/
def listOverride (xs : List Data) (k v : Data) : Except Misuse (List Data) := do
  if xs.any (·.sameKey k) then
    match ← listItem xs k with
    | .map base =>
      match v with
      | .map layer => listPut xs k (.map (Mapping.merge base layer))
      | v => listPut xs k v
    | _ => listPut xs k v
  else listPut xs k v

/-- One entry of an override laid over a set, which takes none. -/
def setOverride (xs : List Data) (k : Data) : Misuse :=
  if xs.any (·.sameKey k) then .noItems "set" else .takesNoItems "set"

/-- Any override laid over any base, where nothing stands in several places. -/
def Data.merge? (base layer : Data) : Except Misuse Data :=
  match base, layer with
  | .map b, .map o => .ok (.map (Mapping.merge b o))
  | .list xs, .map o => do return .list (← o.foldlM (fun xs e => listOverride xs e.1 e.2) xs)
  | .set xs, .map [] => .ok (.set xs)
  | .set xs, .map (e :: _) => .error (setOverride xs e.1)
  | .map _, o => .error (.noOperation o.kindWord "items")
  | .list _, o => .error (.noOperation o.kindWord "items")
  | .set _, o => .error (.noOperation o.kindWord "items")
  | b, _ => .error (.noOperation b.kindWord "copy")

/-- **Any override laid over any base.** -/
def Shared.merge? (base layer : Shared) : Except Misuse Shared :=
  match base, layer with
  | .map _ b, .map _ o => .ok (.map none (Shared.mergeEntries o b))
  | b, o => (Data.merge? b.data o.data).map .ofData

end Handout
