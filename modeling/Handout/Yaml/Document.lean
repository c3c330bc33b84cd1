import Handout.Yaml.Node
import Handout.Yaml.Typed

/-!
# Documents as data

The value of a node, and of a whole text. A merge key puts the entries of its value before those of
the mapping it stands in, so that these win; of several mappings the first wins. No compound value is
a key, and a key given twice keeps its first place and its last value. The value of a mapping has the
mark of its node, so that a mapping with aliases is one mapping in several places.

A document can have more than one fault, and one of them is reported. Values are made from the
outside in: a list or a mapping is there first and is filled in the next round, all those of one
round from left to right. The fault of the earliest round is met first. `Rounds` keeps the round with
the fault, and `Rounds.both` chooses.
-/

namespace Handout.Yaml

/-- A value, or a fault and the round in which it is met. -/
abbrev Rounds (α : Type) := Except (Nat × Fault) α

namespace Rounds

/-- Both of two values, or the fault that is met first; in one round that is the left one. -/
def both {α β γ : Type} (f : α → β → γ) : Rounds α → Rounds β → Rounds γ
  | .ok a, .ok b => .ok (f a b)
  | .ok _, .error e => .error e
  | .error e, .ok _ => .error e
  | .error (m, e), .error (n, g) => if n < m then .error (n, g) else .error (m, e)

/-- All of a list of values, or the fault that is met first. -/
def all {α : Type} : List (Rounds α) → Rounds (List α)
  | [] => .ok []
  | x :: xs => both List.cons x (all xs)

/-- What is met in this round. -/
def now {α : Type} (x : Except Fault α) : Rounds α :=
  x.mapError fun e => (0, e)

/-- What is met one round later. -/
def later {α : Type} (x : Rounds α) : Rounds α :=
  x.mapError fun e => (e.1 + 1, e.2)

end Rounds

namespace Node

mutual

/-- The text of a node where a scalar is asked for: that of the scalar, or that of the value at the
value key of a mapping. -/
def scalarText? : Node → Option (List Char)
  | .scalar _ t => some t
  | .sequence _ _ => none
  | .mapping _ _ es => valueText? es
  termination_by structural x => x

/-- The text at the value key of entries. -/
def valueText? : List (Node × Node) → Option (List Char)
  | [] => none
  | (k, v) :: r => if k.kind = .value then v.scalarText? else valueText? r
  termination_by structural es => es

end

/-- The value of a node that is asked for as a scalar of a kind. -/
def scalarValue (k : Kind) (x : Node) : Rounds Data :=
  match x.scalarText? with
  | some t => .now (k.read t)
  | none => .now (.error .malformed)

/-- The keys of entries, each once. -/
def keySet (es : Shared.Entries) : Data :=
  .set ((Shared.ofPairs es).map Prod.fst)

/-- Entries that are made with the mapping they stand in. -/
abbrev Entries := List (Rounds (Data × Shared))

/-- The value of a node of entries, by its kind. Entries that cannot be merged are none. -/
def ofEntries (mark : Mark) (k : Kind) (es : Option Entries) : Rounds Shared :=
  let filled := fun (f : Shared.Entries → Shared) =>
    match es with
    | some es => Rounds.later ((Rounds.all es).map f)
    | none => .error (1, .malformed)
  match k with
  | .map => filled fun es => .map (some mark) (Shared.ofPairs es)
  | .set => filled fun es => .ofData (keySet es)
  | .list | .pairs => .error (1, .malformed)
  | _ => .error (0, .malformed)

/-- The value of a node of items, by its kind. -/
def ofItems (k : Kind) (xs : List (Rounds Shared)) (pairs : Entries) : Rounds Shared :=
  match k with
  | .list => Rounds.later ((Rounds.all xs).map Shared.list)
  | .pairs => Rounds.later ((Rounds.all pairs).map Shared.pairs)
  | .map | .set => .error (1, .malformed)
  | _ => .error (0, .malformed)

/-- A key with its value. A compound key is refused before its value is looked at. -/
def entry (key : Node) (k : Rounds Data) (v : Rounds Shared) : Rounds (Data × Shared) :=
  if key.kind.isCompound then .error (0, .malformed) else Rounds.both Prod.mk k v

/-- The entries of a mapping, the merged ones first. -/
def joined (parts : Option (Entries × Entries)) : Option Entries :=
  parts.map fun p => p.1 ++ p.2

mutual

/-- **The value of a node.** -/
def value : Node → Rounds Shared
  | .scalar k t =>
    if k.isCompound then .error (1, .malformed) else .now ((k.read t).map .ofData)
  | .sequence k xs => ofItems k (values xs) (pairs xs)
  | .mapping mark k es =>
    if k.isCompound then ofEntries mark k (joined (split es))
    else
      match valueText? es with
      | some t => .now ((k.read t).map .ofData)
      | none => .error (0, .malformed)
  termination_by structural x => x

/-- The values of items. -/
def values : List Node → List (Rounds Shared)
  | [] => []
  | x :: xs => x.value :: values xs
  termination_by structural xs => xs

/-- The pairs of items, each of which must be a mapping of one entry. -/
def pairs : List Node → Entries
  | [] => []
  | x :: xs =>
    (match x with
      | .mapping _ _ [(k, v)] => Rounds.both Prod.mk (k.value.map Shared.data) v.value
      | _ => .error (0, .malformed)) :: pairs xs
  termination_by structural xs => xs

/-- The merged entries of a mapping and its own ones. -/
def split : List (Node × Node) → Option (Entries × Entries)
  | [] => some ([], [])
  | (k, v) :: r => do
    let (merged, own) ← split r
    if k.kind = .merge then return ((← toMerge v) ++ merged, own)
    else
      let key := if k.kind = .value then scalarValue .text k else k.value.map Shared.data
      return (merged, entry k key v.value :: own)
  termination_by structural es => es

/-- What the value of a merge key brings in: the entries of a mapping, or those of the mappings of a
list, the last one first. -/
def toMerge : Node → Option Entries
  | .mapping _ _ es => joined (split es)
  | .sequence _ xs => toMergeAll xs
  | .scalar _ _ => none
  termination_by structural x => x

/-- What a list of mappings brings in. -/
def toMergeAll : List Node → Option Entries
  | [] => some []
  | x :: xs => do
    let rest ← toMergeAll xs
    match x with
    | .mapping _ _ es => return rest ++ (← joined (split es))
    | _ => none
  termination_by structural xs => xs

end

end Node

/-! ## Texts -/

/-- A character that may stand in a document. -/
def isDocumentChar (c : Char) : Bool :=
  let n := c.toNat
  n = 0x9 || n = 0xA || n = 0xD || (0x20 ≤ n && n ≤ 0x7E) || n = 0x85 ||
    (0xA0 ≤ n && n ≤ 0xD7FF) || (0xE000 ≤ n && n ≤ 0xFFFD) || 0x10000 ≤ n

/-- A text with a line feed for every line break of ASCII. -/
def plainBreaks : List Char → List Char
  | [] => []
  | '\r' :: '\n' :: r => '\n' :: plainBreaks r
  | '\r' :: r => '\n' :: plainBreaks r
  | c :: r => c :: plainBreaks r

/-- **The value of the document** in a file. An empty one is null. -/
def document (file : String) (text : List Char) : Except Fault Shared := do
  let text := plainBreaks text
  if !text.all isDocumentChar then throw .malformed
  match ← Node.ofTokens file (← Token.ofText text) with
  | none => return .ofData .null
  | some node => node.value.mapError Prod.snd

end Handout.Yaml
