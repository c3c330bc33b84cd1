import Handout.Yaml.Scalar

/-!
# Tokens of a document

A document is a list of tokens: indicators, names, tags and scalars, together with the tokens that
the indentation of a block stands for. Whether a scalar is a key is only known at the colon after
it, so a place where a key may begin is kept until then, and the tokens of the key are put in there.
A key stands on one line and within `Token.keyReach` characters.

`Token.ofText` gives the tokens of a whole text.
-/

namespace Handout.Yaml

/-- A token. -/
inductive Token
  /-- The version that a document names, by its first number. -/
  | version (major : Nat)
  /-- A short form for the start of tags. -/
  | tagShort (handle start : List Char)
  /-- A directive that means nothing here. -/
  | otherDirective
  | documentStart
  | documentEnd
  | streamEnd
  | blockSequence
  | blockMapping
  | blockEnd
  | flowSequence
  | flowSequenceEnd
  | flowMapping
  | flowMappingEnd
  | blockEntry
  | flowEntry
  | key
  | value
  | reference (name : List Char)
  | anchor (name : List Char)
  | tag (handle : Option (List Char)) (suffix : List Char)
  | scalar (text : List Char) (plain : Bool)
  deriving DecidableEq, Repr

namespace Token

/-- How many characters may lie between the start of a key and its colon. -/
def keyReach : Nat := 1024

/-- A place where a key may begin. -/
structure KeyPlace where
  /-- How many tokens stand before it. -/
  token : Nat
  /-- Whether something other than a key would be a fault of indentation. -/
  required : Bool
  index : Nat
  line : Nat
  column : Nat
  deriving Repr

/-- A scan in progress. -/
structure Scan where
  cursor : Cursor
  /-- How many brackets are open. -/
  flow : Nat
  /-- The tokens so far, last first. -/
  tokens : List Token
  /-- The column of the innermost block, or one before the first column. -/
  indent : Int
  /-- The columns of the blocks around it. -/
  outer : List Int
  /-- Whether a key may begin here. -/
  keyAllowed : Bool
  /-- The places where a key may have begun, by the number of open brackets. -/
  keys : List (Nat × KeyPlace)

/-- The scan of a text at its start. -/
def Scan.start (text : List Char) : Scan :=
  ⟨Cursor.start text, 0, [], -1, [], true, []⟩

/-- A scan goes on, or meets a fault. -/
abbrev Step := Scan → Except Fault Scan

/-! ## Bookkeeping -/

/-- A scan with one more token. -/
def Scan.add (s : Scan) (t : Token) : Scan := { s with tokens := t :: s.tokens }

/-- A scan at another cursor. -/
def Scan.move (s : Scan) (c : Cursor) : Scan := { s with cursor := c }

/-- A scan with a decision on keys. -/
def Scan.allow (s : Scan) (b : Bool) : Scan := { s with keyAllowed := b }

/-- Forget the places of keys that are too far back; none of them may be required. -/
def Scan.forgetStale (s : Scan) : Except Fault Scan :=
  let stale := fun (k : KeyPlace) =>
    k.line ≠ s.cursor.line || keyReach < s.cursor.index - k.index
  if s.keys.any fun k => stale k.2 && k.2.required then .error .malformed
  else .ok { s with keys := s.keys.filter fun k => !stale k.2 }

/-- Forget the place of a key in the innermost bracket; it must not be required. -/
def Scan.dropKey (s : Scan) : Except Fault Scan :=
  match s.keys.lookup s.flow with
  | some k =>
    if k.required then .error .malformed
    else .ok { s with keys := s.keys.filter (·.1 ≠ s.flow) }
  | none => .ok s

/-- Note that a key may begin here. -/
def Scan.noteKey (s : Scan) : Except Fault Scan :=
  if s.keyAllowed then do
    let s ← s.dropKey
    let c := s.cursor
    let k : KeyPlace :=
      ⟨s.tokens.length, s.flow == 0 && s.indent == c.column, c.index, c.line, c.column⟩
    return { s with keys := (s.flow, k) :: s.keys }
  else .ok s

/-- Close the blocks that stand deeper than a column. -/
def closeTo (column : Int) : List Int → Int → List Token → Int × List Int × List Token
  | [], indent, ts => if column < indent then (-1, [], .blockEnd :: ts) else (indent, [], ts)
  | o :: os, indent, ts =>
    if column < indent then closeTo column os o (.blockEnd :: ts) else (indent, o :: os, ts)

/-- Close the blocks that stand deeper than a column; none are closed between brackets. -/
def Scan.unwind (s : Scan) (column : Int) : Scan :=
  if s.flow ≠ 0 then s
  else
    let (indent, outer, tokens) := closeTo column s.outer s.indent s.tokens
    { s with indent := indent, outer := outer, tokens := tokens }

/-- Open a block at a column, where the innermost one stands less deep. -/
def Scan.deepen? (s : Scan) (column : Nat) : Option Scan :=
  if s.indent < column then
    some { s with indent := column, outer := s.indent :: s.outer }
  else none

/-- Open a block at a column with a token, where the innermost one stands less deep. -/
def Scan.open_ (s : Scan) (column : Nat) (t : Token) : Scan :=
  match s.deepen? column with
  | some s => s.add t
  | none => s

/-- A list with an element put in behind so many others. -/
def putBehind {α : Type} (a : α) : Nat → List α → List α
  | 0, xs => a :: xs
  | _ + 1, [] => [a]
  | n + 1, x :: xs => x :: putBehind a n xs

/-- A scan with a token put in where so many tokens stand before. -/
def Scan.insert (s : Scan) (place : Nat) (t : Token) : Scan :=
  { s with tokens := putBehind t (s.tokens.length - place) s.tokens }

/-! ## Directives, names and tags -/

/-- A name of letters, digits, hyphens and underscores. -/
def nameAt (c : Cursor) : Except Fault (List Char × Cursor) :=
  let n := c.run isNameChar
  if n.isEmpty then .error .malformed else .ok (n, c.advance n.length)

/-- A decimal number. -/
def numberAt (c : Cursor) : Except Fault (Nat × Cursor) :=
  let ds := c.run fun x => '0' ≤ x && x ≤ '9'
  if ds.isEmpty then .error .malformed
  else .ok (ds.foldl (fun n d => 10 * n + (d.toNat - 48)) 0, c.advance ds.length)

/-- A character of a tag. -/
def isTagChar (x : Char) : Bool :=
  x.isAlphanum || "-;/?:@&=+$,_.!~*'()[]%".toList.contains x

/-- The bytes of percent escapes, as far as they go. -/
def percentBytes : Nat → Cursor → Except Fault (List UInt8 × Cursor)
  | 0, c => .ok ([], c)
  | n + 1, c =>
    if c.next = some '%' then do
      let (b, c) ← Scalar.hexNumber 2 c.forward
      let (bs, c) ← percentBytes n c
      return (.ofNat b :: bs, c)
    else .ok ([], c)

/-- The characters of a tag, escapes replaced by what they stand for. -/
def tagRest : Nat → Cursor → Except Fault (List Char × Cursor)
  | 0, c => .ok ([], c)
  | n + 1, c =>
    if c.next = some '%' then do
      let (bytes, c) ← percentBytes (c.rest.length + 1) c
      match Utf8.decode bytes with
      | .ok text => do
        let (more, c) ← tagRest n c
        return (text ++ more, c)
      | .error _ => throw .malformed
    else
      match c.next with
      | some x =>
        if isTagChar x then do
          let (more, c) ← tagRest n c.forward
          return (x :: more, c)
        else .ok ([], c)
      | none => .ok ([], c)

/-- The characters of a tag, of which there must be some. -/
def tagText (c : Cursor) : Except Fault (List Char × Cursor) := do
  let (text, d) ← tagRest (c.rest.length + 1) c
  if d.index = c.index then throw .malformed
  return (text, d)

/-- A handle: an exclamation mark, or a name between two of them. -/
def handleAt (c : Cursor) : Except Fault (List Char × Cursor) :=
  if c.next ≠ some '!' then .error .malformed
  else if c.peek 1 = some ' ' then .ok (['!'], c.forward)
  else
    let name := c.forward.run isNameChar
    let d := c.forward.advance name.length
    if d.next = some '!' then .ok ('!' :: name ++ ['!'], d.forward) else .error .malformed

/-- The directive that the cursor is at, with the line it stands on. -/
def directiveAt (c : Cursor) : Except Fault (Token × Cursor) := do
  let (name, c) ← nameAt c.forward
  if !endsWord c.next then throw .malformed
  let (t, c) ←
    if name = "YAML".toList then do
      let (major, c) ← numberAt (c.skip (· == ' '))
      if c.next ≠ some '.' then throw .malformed
      let (_, c) ← numberAt c.forward
      if !endsWord c.next then throw .malformed
      pure (Token.version major, c)
    else if name = "TAG".toList then do
      let (handle, c) ← handleAt (c.skip (· == ' '))
      if c.next ≠ some ' ' then throw .malformed
      let (start, c) ← tagText (c.skip (· == ' '))
      if !endsWord c.next then throw .malformed
      pure (Token.tagShort handle start, c)
    else pure (Token.otherDirective, c.skip (!isBreak ·))
  let c := (c.skip (· == ' ')).skipComment
  if !endsLine c.next then throw .malformed
  match c.lineBreak? with
  | some (_, c) => return (t, c)
  | none => return (t, c)

/-- Whether a name may end before what comes next. -/
def endsName : Option Char → Bool
  | none => true
  | some x => endsToken (some x) || "?:,]\x7d%@\x60".toList.contains x

/-- The name after an ampersand or an asterisk, which the cursor is at. -/
def markedName (c : Cursor) : Except Fault (List Char × Cursor) := do
  let (name, c) ← nameAt c.forward
  if endsName c.next then return (name, c) else throw .malformed

/-- Whether an exclamation mark closes a handle before the end of the word. -/
def hasHandle (c : Cursor) : Bool :=
  (c.forward.run fun x => !(x == ' ' || isBreak x)).contains '!'

/-- The tag that the cursor is at. -/
def tagAt (c : Cursor) : Except Fault (Token × Cursor) := do
  let (t, c) ←
    if c.peek 1 = some '<' then do
      let (text, c) ← tagText (c.advance 2)
      if c.next ≠ some '>' then throw .malformed
      pure (Token.tag none text, c.forward)
    else if endsToken (c.peek 1) then pure (Token.tag none ['!'], c.forward)
    else if hasHandle c then do
      let (handle, c) ← handleAt c
      let (text, c) ← tagText c
      pure (Token.tag (some handle) text, c)
    else do
      let (text, c) ← tagText c.forward
      pure (Token.tag (some ['!']) text, c)
  if endsWord c.next then return (t, c) else throw .malformed

/-! ## One token -/

/-- A directive, or the start or end of a document: it closes every block. -/
def Scan.outermost (s : Scan) (t : Token) (c : Cursor) : Except Fault Scan := do
  let s ← (s.unwind (-1)).dropKey
  return ((s.allow false).add t).move c

/-- An opening bracket. -/
def Scan.openBracket (s : Scan) (t : Token) : Except Fault Scan := do
  let s ← s.noteKey
  return { ((s.allow true).add t).move s.cursor.forward with flow := s.flow + 1 }

/-- A closing bracket. -/
def Scan.closeBracket (s : Scan) (t : Token) : Except Fault Scan := do
  let s ← s.dropKey
  match s.flow with
  | 0 => throw .malformed
  | n + 1 => return { ((s.allow false).add t).move s.cursor.forward with flow := n }

/-- A comma between brackets. -/
def Scan.comma (s : Scan) : Except Fault Scan := do
  let s ← (s.allow true).dropKey
  return (s.add .flowEntry).move s.cursor.forward

/-- A hyphen that starts an entry. -/
def Scan.hyphen (s : Scan) : Except Fault Scan := do
  if s.flow = 0 ∧ !s.keyAllowed then throw .malformed
  let s := if s.flow = 0 then s.open_ s.cursor.column .blockSequence else s
  let s ← (s.allow true).dropKey
  return (s.add .blockEntry).move s.cursor.forward

/-- A question mark that starts a key. -/
def Scan.question (s : Scan) : Except Fault Scan := do
  if s.flow = 0 ∧ !s.keyAllowed then throw .malformed
  let s := if s.flow = 0 then s.open_ s.cursor.column .blockMapping else s
  let s ← (s.allow (s.flow == 0)).dropKey
  return (s.add .key).move s.cursor.forward

/-- A colon that starts a value, after a key that began at a noted place or after none. -/
def Scan.colon (s : Scan) : Except Fault Scan :=
  match s.keys.lookup s.flow with
  | some k =>
    let s := { s with keys := s.keys.filter (·.1 ≠ s.flow) }
    let s := s.insert k.token .key
    let s :=
      if s.flow = 0 then
        match s.deepen? k.column with
        | some s => s.insert k.token .blockMapping
        | none => s
      else s
    .ok (((s.allow false).add .value).move s.cursor.forward)
  | none => do
    if s.flow = 0 ∧ !s.keyAllowed then throw .malformed
    let s := if s.flow = 0 then s.open_ s.cursor.column .blockMapping else s
    let s ← (s.allow (s.flow == 0)).dropKey
    return (s.add .value).move s.cursor.forward

/-- A token that may begin a key. -/
def Scan.content (s : Scan) (read : Cursor → Except Fault (Token × Cursor)) : Except Fault Scan := do
  let s ← s.noteKey
  let (t, c) ← read s.cursor
  return ((s.allow false).add t).move c

/-- A block scalar. -/
def Scan.blockScalar (s : Scan) (folded : Bool) : Except Fault Scan := do
  let s ← (s.allow true).dropKey
  let (text, c) ← Scalar.block folded s.indent s.cursor.forward
  return (s.add (.scalar text false)).move c

/-- A plain scalar. -/
def Scan.plainScalar (s : Scan) : Except Fault Scan := do
  let s ← s.noteKey
  let (text, broke, c) := Scalar.plain (s.flow != 0) (s.indent + 1).toNat s.cursor
  return ((s.allow broke).add (.scalar text true)).move c

/-- Characters that begin no plain scalar on their own. -/
def isIndicator (x : Char) : Bool :=
  "-?:,[]\x7b\x7d#&*!|>'\"%@\x60".toList.contains x

/-- Whether a plain scalar begins with a character before another one. -/
def beginsPlain (inFlow : Bool) (x : Char) (after : Option Char) : Bool :=
  (!endsToken (some x) && !isIndicator x) ||
    (!endsToken after && (x == '-' || (!inFlow && (x == '?' || x == ':'))))

/-- The cursor after blanks, comments and line breaks, and whether there was a line break. -/
def skipLines : Nat → Bool → Cursor → Bool × Cursor
  | 0, broke, c => (broke, c)
  | n + 1, broke, c =>
    let c := (c.skip (· == ' ')).skipComment
    match c.lineBreak? with
    | some (_, c) => skipLines n true c
    | none => (broke, c)

/-- A scan past blanks, comments and line breaks; after a line break a key may begin in a block. -/
def Scan.toNext (s : Scan) : Scan :=
  let c := if s.cursor.index = 0 ∧ s.cursor.next = some '\uFEFF' then s.cursor.forward else s.cursor
  let (broke, c) := skipLines (c.rest.length + 1) false c
  { s with cursor := c, keyAllowed := s.keyAllowed || (broke && s.flow == 0) }

/-- The token that begins with a character. -/
def Scan.dispatch (s : Scan) (x : Char) : Except Fault Scan :=
  let c := s.cursor
  let first := c.column = 0
  if first ∧ x = '%' then do
    let (t, c) ← directiveAt c
    s.outermost t c
  else if first ∧ x = '-' ∧ c.atDocumentMark then s.outermost .documentStart (c.advance 3)
  else if first ∧ x = '.' ∧ c.atDocumentMark then s.outermost .documentEnd (c.advance 3)
  else if x = '[' then s.openBracket .flowSequence
  else if x = '\x7b' then s.openBracket .flowMapping
  else if x = ']' then s.closeBracket .flowSequenceEnd
  else if x = '\x7d' then s.closeBracket .flowMappingEnd
  else if x = ',' then s.comma
  else if x = '-' ∧ endsToken (c.peek 1) then s.hyphen
  else if x = '?' ∧ (s.flow ≠ 0 ∨ endsToken (c.peek 1)) then s.question
  else if x = ':' ∧ (s.flow ≠ 0 ∨ endsToken (c.peek 1)) then s.colon
  else if x = '*' then s.content fun c => do
    let (n, c) ← markedName c
    return (.reference n, c)
  else if x = '&' then s.content fun c => do
    let (n, c) ← markedName c
    return (.anchor n, c)
  else if x = '!' then s.content tagAt
  else if x = '|' ∧ s.flow = 0 then s.blockScalar false
  else if x = '>' ∧ s.flow = 0 then s.blockScalar true
  else if x = '\'' then s.content fun c => do
    let (t, c) ← Scalar.quoted false c
    return (.scalar t false, c)
  else if x = '"' then s.content fun c => do
    let (t, c) ← Scalar.quoted true c
    return (.scalar t false, c)
  else if beginsPlain (s.flow != 0) x (c.peek 1) then s.plainScalar
  else .error .malformed

/-- The tokens of what is left, after those of the scan. The number bounds the tokens. -/
def finish : Nat → Scan → Except Fault (List Token)
  | 0, _ => .error .malformed
  | n + 1, s => do
    let s ← s.toNext.forgetStale
    let s := s.unwind s.cursor.column
    match s.cursor.next with
    | none =>
      let s ← (s.unwind (-1)).dropKey
      return (Token.streamEnd :: s.tokens).reverse
    | some x =>
      let s ← s.dispatch x
      finish n s

/-- **The tokens of a text.** -/
def ofText (text : List Char) : Except Fault (List Token) :=
  finish (text.length + 1) (Scan.start text)

end Token

end Handout.Yaml
