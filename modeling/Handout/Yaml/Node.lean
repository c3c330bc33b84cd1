import Handout.Data.Shared
import Handout.Yaml.Kind
import Handout.Yaml.Token

/-!
# Nodes of a document

A document is a tree of nodes: scalars, sequences and mappings, each of a kind. `Node.ofTokens?`
builds the tree. An alias stands for the node that its anchor named before, and an anchor is named
once. A mapping keeps the mark of where it was read, so that an alias of it is the same mapping.

**A limit.** A tree ends everywhere. An alias inside of the node of its own anchor would make a value
that holds itself; a reader that builds its nodes in place takes such a document, and here it is
refused as malformed.

Where a node may be left out, what is left out is the empty scalar, which is null. A stream holds one
document at most.
-/

namespace Handout.Yaml

/-- A node of a document. -/
inductive Node
  | scalar (kind : Kind) (text : List Char)
  | sequence (kind : Kind) (items : List Node)
  | mapping (mark : Mark) (kind : Kind) (entries : List (Node × Node))
  deriving Repr

namespace Node

/-- The kind of a node. -/
def kind : Node → Kind
  | .scalar k _ => k
  | .sequence k _ => k
  | .mapping _ k _ => k

/-- What stands for a node that is left out. -/
def absent : Node := .scalar .null []

/-- The short forms for the start of tags, each with what it stands for. -/
abbrev Shorts := List (List Char × List Char)

/-- The short forms that need no directive. -/
def standardShorts : Shorts := [(['!'], ['!']), (['!', '!'], Kind.tagStart.toList)]

/-- A reading in progress. -/
structure Reading where
  /-- The name of the file. -/
  file : String
  tokens : List Token
  /-- The anchors named so far. -/
  named : List (List Char)
  /-- The nodes of the anchors whose nodes are complete. -/
  anchors : List (List Char × Node)

/-- A reading past one token. -/
def Reading.next (r : Reading) : Reading := { r with tokens := r.tokens.tail }

/-- The mark of a mapping that begins here. What is left to read tells it from all others. -/
def Reading.mark (r : Reading) : Mark := ⟨r.file, r.tokens.length⟩

/-- Whether one of some tokens comes next, or nothing does. -/
def Reading.sees (r : Reading) (ts : List Token) : Bool :=
  match r.tokens with
  | [] => true
  | t :: _ => ts.contains t

/-! ## Anchors and tags -/

/-- What is written before a node: its anchor, and its tag with the short form replaced. -/
structure Properties where
  anchor : Option (List Char)
  tag : Option (List Char)

/-- The anchor that comes next, if one does. -/
def anchorAt (r : Reading) : Option (List Char) × Reading :=
  match r.tokens with
  | .anchor a :: _ => (some a, r.next)
  | _ => (none, r)

/-- The tag that comes next, if one does. -/
def tagAt (shorts : Shorts) (r : Reading) : Except Fault (Option (List Char) × Reading) :=
  match r.tokens with
  | .tag none suffix :: _ => .ok (some suffix, r.next)
  | .tag (some handle) suffix :: _ =>
    match shorts.lookup handle with
    | some start => .ok (some (start ++ suffix), r.next)
    | none => .error .malformed
  | _ => .ok (none, r)

/-- An anchor and a tag, in either order. -/
def propertiesAt (shorts : Shorts) (r : Reading) : Except Fault (Properties × Reading) :=
  match anchorAt r with
  | (some a, r) => do
    let (t, r) ← tagAt shorts r
    return (⟨some a, t⟩, r)
  | (none, r) => do
    let (t, r) ← tagAt shorts r
    match t with
    | none => return (⟨none, none⟩, r)
    | some t =>
      let (a, r) := anchorAt r
      return (⟨a, some t⟩, r)

/-- Name an anchor, which must be new. -/
def Reading.name (r : Reading) : Option (List Char) → Except Fault Reading
  | none => .ok r
  | some a => if r.named.contains a then .error .malformed else .ok { r with named := a :: r.named }

/-- Note the complete node of an anchor. -/
def Reading.complete (r : Reading) (anchor : Option (List Char)) (node : Node) : Reading :=
  match anchor with
  | none => r
  | some a => { r with anchors := (a, node) :: r.anchors }

/-- Whether a tag names a kind; a single exclamation mark leaves it to the form of the node. -/
def naming? (tag : Option (List Char)) : Option (List Char) :=
  tag.filter (· ≠ ['!'])

/-- The kind of a sequence or a mapping with a tag, or of the standard kind without one. -/
def kindOr (standard : Kind) (tag : Option (List Char)) : Kind :=
  match naming? tag with
  | some t => .ofTag t
  | none => standard

/-- The kind of a scalar. Without a tag the form decides where the scalar is plain; the single
exclamation mark asks for that too. -/
def scalarKind (tag : Option (List Char)) (text : List Char) (plain : Bool) : Kind :=
  match naming? tag with
  | some t => .ofTag t
  | none => if plain || tag.isSome then .ofPlain text else .text

/-! ## The grammar -/

mutual

/-- A node. In a block it may be a block itself, and where asked for a list that stands no deeper
than its key. An anchor has its node only once that is complete, so an alias within it finds none. -/
def read (shorts : Shorts) : Nat → Bool → Bool → Reading → Except Fault (Node × Reading)
  | 0, _, _, _ => .error .malformed
  | n + 1, inBlock, shallow, r =>
    match r.tokens with
    | .reference a :: _ =>
      match r.anchors.lookup a with
      | some node => .ok (node, r.next)
      | none => .error .malformed
    | _ => do
      let (p, r) ← propertiesAt shorts r
      let r ← if r.sees [] then throw .malformed else r.name p.anchor
      let (node, r) ← match r.tokens with
        | .blockEntry :: _ =>
          if shallow then do
            let (items, r) ← readShallow shorts n r
            pure (Node.sequence (kindOr .list p.tag) items, r)
          else readNothing p r
        | .scalar text plain :: _ =>
          pure (Node.scalar (scalarKind p.tag text plain) text, r.next)
        | .flowSequence :: _ => do
          let (items, r) ← readItems shorts n true r.next
          pure (Node.sequence (kindOr .list p.tag) items, r)
        | .flowMapping :: _ => do
          let (entries, after) ← readEntries shorts n true r.next
          pure (Node.mapping r.mark (kindOr .map p.tag) entries, after)
        | .blockSequence :: _ =>
          if inBlock then do
            let (items, r) ← readBlockItems shorts n r.next
            pure (Node.sequence (kindOr .list p.tag) items, r)
          else readNothing p r
        | .blockMapping :: _ =>
          if inBlock then do
            let (entries, after) ← readBlockEntries shorts n r.next
            pure (Node.mapping r.mark (kindOr .map p.tag) entries, after)
          else readNothing p r
        | _ => readNothing p r
      return (node, r.complete p.anchor node)

/-- A node that is not there, which takes an anchor or a tag to be one. -/
def readNothing (p : Properties) (r : Reading) : Except Fault (Node × Reading) :=
  if p.anchor.isNone ∧ p.tag.isNone then .error .malformed
  else .ok (.scalar (scalarKind p.tag [] true) [], r)

/-- A node, or the absent one where one of some tokens comes next. -/
def readPart (shorts : Shorts) :
    Nat → List Token → Bool → Bool → Reading → Except Fault (Node × Reading)
  | 0, _, _, _, _ => .error .malformed
  | n + 1, ends, inBlock, shallow, r =>
    if r.sees ends then .ok (absent, r) else read shorts n inBlock shallow r

/-- The value after a colon, or the absent one where there is no colon. -/
def readValue (shorts : Shorts) :
    Nat → List Token → Bool → Reading → Except Fault (Node × Reading)
  | 0, _, _, _ => .error .malformed
  | n + 1, ends, inBlock, r =>
    match r.tokens with
    | .value :: _ => readPart shorts n ends inBlock inBlock r.next
    | _ => .ok (absent, r)

/-- The entries of a block list. -/
def readBlockItems (shorts : Shorts) : Nat → Reading → Except Fault (List Node × Reading)
  | 0, _ => .error .malformed
  | n + 1, r =>
    match r.tokens with
    | .blockEntry :: _ => do
      let (x, r) ← readPart shorts n [.blockEntry, .blockEnd] true false r.next
      let (xs, r) ← readBlockItems shorts n r
      return (x :: xs, r)
    | .blockEnd :: _ => .ok ([], r.next)
    | _ => .error .malformed

/-- The entries of a block list that stands no deeper than its key. -/
def readShallow (shorts : Shorts) : Nat → Reading → Except Fault (List Node × Reading)
  | 0, _ => .error .malformed
  | n + 1, r =>
    match r.tokens with
    | .blockEntry :: _ => do
      let (x, r) ← readPart shorts n [.blockEntry, .key, .value, .blockEnd] true false r.next
      let (xs, r) ← readShallow shorts n r
      return (x :: xs, r)
    | _ => .ok ([], r)

/-- The entries of a block mapping. -/
def readBlockEntries (shorts : Shorts) : Nat → Reading → Except Fault (List (Node × Node) × Reading)
  | 0, _ => .error .malformed
  | n + 1, r => do
    let ends := [.key, .value, .blockEnd]
    match r.tokens with
    | .key :: _ =>
      let (k, r) ← readPart shorts n ends true true r.next
      let (v, r) ← readValue shorts n ends true r
      let (es, r) ← readBlockEntries shorts n r
      return ((k, v) :: es, r)
    | .blockEnd :: _ => return ([], r.next)
    | _ => throw .malformed

/-- The items of a list between brackets. An item with a key is a mapping of one entry. -/
def readItems (shorts : Shorts) : Nat → Bool → Reading → Except Fault (List Node × Reading)
  | 0, _, _ => .error .malformed
  | n + 1, isFirst, r => do
    if r.tokens.head? = some .flowSequenceEnd then return ([], r.next)
    let r ← if isFirst then pure r
      else if r.tokens.head? = some .flowEntry then pure r.next else throw .malformed
    match r.tokens with
    | .key :: _ =>
      let mark := r.mark
      let (k, r) ← readPart shorts n [.value, .flowEntry, .flowSequenceEnd] false false r.next
      let (v, r) ← readValue shorts n [.flowEntry, .flowSequenceEnd] false r
      let (xs, r) ← readItems shorts n false r
      return (.mapping mark .map [(k, v)] :: xs, r)
    | .flowSequenceEnd :: _ => return ([], r.next)
    | _ =>
      let (x, r) ← read shorts n false false r
      let (xs, r) ← readItems shorts n false r
      return (x :: xs, r)

/-- The entries of a mapping between braces. An item without a key is a key without a value. -/
def readEntries (shorts : Shorts) :
    Nat → Bool → Reading → Except Fault (List (Node × Node) × Reading)
  | 0, _, _ => .error .malformed
  | n + 1, isFirst, r => do
    if r.tokens.head? = some .flowMappingEnd then return ([], r.next)
    let r ← if isFirst then pure r
      else if r.tokens.head? = some .flowEntry then pure r.next else throw .malformed
    match r.tokens with
    | .key :: _ =>
      let (k, r) ← readPart shorts n [.value, .flowEntry, .flowMappingEnd] false false r.next
      let (v, r) ← readValue shorts n [.flowEntry, .flowMappingEnd] false r
      let (es, r) ← readEntries shorts n false r
      return ((k, v) :: es, r)
    | .flowMappingEnd :: _ => return ([], r.next)
    | _ =>
      let (k, r) ← read shorts n false false r
      let (es, r) ← readEntries shorts n false r
      return ((k, absent) :: es, r)

end

/-! ## Documents -/

/-- What the directives before a document have said. -/
structure Directives where
  versioned : Bool
  shorts : Shorts

/-- The directives before a document, none of which may be said twice. -/
def directivesOf : List Token → Directives → Except Fault (Directives × List Token)
  | .version major :: ts, d =>
    if d.versioned ∨ major ≠ 1 then .error .malformed
    else directivesOf ts { d with versioned := true }
  | .tagShort handle start :: ts, d =>
    if (d.shorts.lookup handle).isSome then .error .malformed
    else directivesOf ts { d with shorts := (handle, start) :: d.shorts }
  | .otherDirective :: ts, d => directivesOf ts d
  | ts, d => .ok (d, ts)

/-- The tokens after any ends of documents. -/
def dropEnds (ts : List Token) : List Token :=
  ts.dropWhile (· == .documentEnd)

/-- A bound on the steps that it takes to read some tokens. -/
def steps (ts : List Token) : Nat := 4 * ts.length + 4

/-- The node of a document, after which nothing but its end may come. -/
def readAlone (file : String) (shorts : Shorts) (ts : List Token) : Except Fault Node := do
  let (node, r) ← read shorts (steps ts) true false ⟨file, ts, [], []⟩
  if dropEnds r.tokens = [.streamEnd] then return node else throw .malformed

/-- A document that begins with directives or with its mark. -/
def readMarked (file : String) (ts : List Token) : Except Fault (Option Node) := do
  if ts = [.streamEnd] then return none
  let (d, ts) ← directivesOf ts ⟨false, []⟩
  match ts with
  | .documentStart :: ts =>
    match ts with
    | .documentEnd :: _ =>
      if dropEnds ts = [.streamEnd] then return some absent else throw .malformed
    | .streamEnd :: _ => return some absent
    | .version _ :: _ | .tagShort _ _ :: _ | .otherDirective :: _ | .documentStart :: _ =>
      throw .malformed
    | _ => return some (← readAlone file (d.shorts ++ standardShorts) ts)
  | _ => throw .malformed

/-- **The node of a document** in a file, where there is one. -/
def ofTokens (file : String) (ts : List Token) : Except Fault (Option Node) :=
  match ts with
  | .version _ :: _ | .tagShort _ _ :: _ | .otherDirective :: _ | .documentStart :: _
  | .streamEnd :: _ => readMarked file ts
  | _ => (readAlone file standardShorts ts).map some

end Node

end Handout.Yaml
