import Handout.Data

/-!
# Mappings that stand in several places

A document may name a mapping and use it again elsewhere. What is then put into the mapping shows in
every place where it stands. A `Shared` is a value whose mappings are told apart by marks: two places
with one mark hold one mapping. `Shared.data` is the value as it reads, with the marks left out.

A mapping without a mark was made on its own and stands in one place, or it was made inside of a
marked one and stands where that stands.
-/

namespace Handout

/-- Whether a value is a mapping. -/
def Data.isMap : Data → Bool
  | .map _ => true
  | _ => false

/-- What tells a mapping of a document apart: the file, and a place in it that no other mapping of
the file has. -/
structure Mark where
  file : String
  place : Nat
  deriving DecidableEq, Repr

/-- A value whose mappings are told apart. -/
inductive Shared
  /-- A value that is no mapping and holds none that stands elsewhere. -/
  | plain (d : Data) (h : d.isMap = false)
  | list (items : List Shared)
  /-- A list of pairs. -/
  | pairs (entries : List (Data × Shared))
  | map (mark : Option Mark) (entries : List (Data × Shared))

namespace Shared

/-- Entries in the order in which their keys were first put. -/
abbrev Entries := List (Data × Shared)

mutual

/-- **The value as it reads.** -/
def data : Shared → Data
  | .plain d _ => d
  | .list xs => .list (items xs)
  | .pairs es => .list ((mapping es).map fun e => .tuple [e.1, e.2])
  | .map _ es => .map (mapping es)
  termination_by structural s => s

/-- The items of a list as they read. -/
def items : List Shared → List Data
  | [] => []
  | x :: xs => x.data :: items xs
  termination_by structural xs => xs

/-- Entries as they read. -/
def mapping : Entries → Mapping
  | [] => []
  | (k, v) :: r => (k, v.data) :: mapping r
  termination_by structural es => es

end

mutual

/-- A value that stands nowhere else. -/
def ofData : Data → Shared
  | .map es => .map none (ofMapping es)
  | .null => .plain .null rfl
  | .bool b => .plain (.bool b) rfl
  | .int n => .plain (.int n) rfl
  | .float x => .plain (.float x) rfl
  | .text s => .plain (.text s) rfl
  | .bytes b => .plain (.bytes b) rfl
  | .date d => .plain (.date d) rfl
  | .moment m => .plain (.moment m) rfl
  | .list xs => .plain (.list xs) rfl
  | .tuple xs => .plain (.tuple xs) rfl
  | .set xs => .plain (.set xs) rfl
  termination_by structural d => d

/-- Entries that stand nowhere else. -/
def ofMapping : List (Data × Data) → Entries
  | [] => []
  | (k, v) :: r => (k, ofData v) :: ofMapping r
  termination_by structural es => es

end

/-- The value at a key. -/
def get? (es : Entries) (k : Data) : Option Shared :=
  (es.find? fun e => e.1.sameKey k).map Prod.snd

/-- Entries with a value at a key. A key that is there keeps its place. -/
def put (es : Entries) (k : Data) (v : Shared) : Entries :=
  match es with
  | [] => [(k, v)]
  | (k', v') :: r => if k'.sameKey k then (k', v) :: r else (k', v') :: put r k v

/-- The entries of pairs put one after the other. -/
def ofPairs (pairs : Entries) : Entries :=
  pairs.foldl (fun es e => put es e.1 e.2) []

/-- **Entries with a value at a key path**, mappings made on the way. -/
def putAt (es : Entries) : List String → Shared → Entries
  | [], _ => es
  | [k], v => put es (.text k) v
  | k :: l :: r, v =>
    match get? es (.text k) with
    | some (.map mark inner) => put es (.text k) (.map mark (putAt inner (l :: r) v))
    | _ => put es (.text k) (.map none (putAt [] (l :: r) v))

/-- The innermost marked mapping on the way along a key path, with what is left of the path there. -/
def holder? : Shared → List String → Option (Mark × List String)
  | .map mark es, k :: l :: r =>
    ((get? es (.text k)).bind (holder? · (l :: r))).or (mark.map (·, k :: l :: r))
  | .map mark _, path => mark.map (·, path)
  | _, _ => none

mutual

/-- A value with the entries of one mapping changed, wherever that stands. -/
def change (m : Mark) (f : Entries → Entries) : Shared → Shared
  | .plain d h => .plain d h
  | .list xs => .list (changeItems m f xs)
  | .pairs es => .pairs (changeEntries m f es)
  | .map mark es => .map mark (if mark = some m then f es else changeEntries m f es)
  termination_by structural s => s

/-- The items of a list with the entries of one mapping changed. -/
def changeItems (m : Mark) (f : Entries → Entries) : List Shared → List Shared
  | [] => []
  | x :: xs => x.change m f :: changeItems m f xs
  termination_by structural xs => xs

/-- Entries with those of one mapping in them changed. -/
def changeEntries (m : Mark) (f : Entries → Entries) : Entries → Entries
  | [] => []
  | (k, v) :: r => (k, v.change m f) :: changeEntries m f r
  termination_by structural es => es

end

/-- **The entries of an outermost mapping with a value put at a key path**, which shows wherever the
mapping that takes the value stands. -/
def write (es : Entries) (path : List String) (v : Shared) : Entries :=
  match path with
  | k :: l :: r =>
    match (get? es (.text k)).bind (holder? · (l :: r)) with
    | some (m, rest) => changeEntries m (putAt · rest v) es
    | none => putAt es path v
  | path => putAt es path v

end Shared

end Handout
