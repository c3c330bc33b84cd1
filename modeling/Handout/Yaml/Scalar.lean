import Handout.Encoding.Utf8
import Handout.Yaml.Cursor
import Handout.Yaml.Fault

/-!
# Written scalars

How the text of a scalar is read where it stands: plain, between quotes, or as a block. In the first
two a single line break between words counts as a space and further ones as themselves; a block
keeps its breaks, or folds them when it says so.

Every reader takes the cursor and gives the text and the cursor after it. The loops over lines are
bounded by the number of characters left.
-/

namespace Handout.Yaml

namespace Scalar

/-- What the breaks between two lines count as: one break is a space, unless it is a separator. -/
def fold (first : Char) (more : List Char) : List Char :=
  (if first ≠ '\n' then [first] else if more.isEmpty then [' '] else []) ++ more

/-! ## Between quotes -/

/-- The breaks of empty lines between quotes, and the blanks around them. -/
def quotedBreaks : Nat → Cursor → Except Fault (List Char × Cursor)
  | 0, _ => .error .malformed
  | n + 1, c =>
    if c.atDocumentMark then .error .malformed
    else
      let c := c.skip fun x => x == ' ' || x == '\t'
      match c.lineBreak? with
      | some (b, c) => do
        let (bs, c) ← quotedBreaks n c
        return (b :: bs, c)
      | none => .ok ([], c)

/-- The characters that a backslash and a letter stand for. -/
def escapes : List (Char × Char) := [
  ('0', '\x00'), ('a', '\x07'), ('b', '\x08'), ('t', '\t'), ('\t', '\t'), ('n', '\n'),
  ('v', '\x0b'), ('f', '\x0c'), ('r', '\r'), ('e', '\x1b'), (' ', ' '), ('"', '"'), ('\\', '\\'),
  ('/', '/'), ('N', '\x85'), ('_', '\xa0'), ('L', '\u2028'), ('P', '\u2029')]

/-- The number of hexadecimal digits after a backslash and a letter. -/
def escapeDigits : List (Char × Nat) := [('x', 2), ('u', 4), ('U', 8)]

/-- The number that the next hexadecimal digits write. -/
def hexNumber (n : Nat) (c : Cursor) : Except Fault (Nat × Cursor) :=
  match (c.rest.take n).mapM Hex.value? with
  | some ds =>
    if ds.length = n then .ok (ds.foldl (fun v d => 16 * v + d) 0, c.advance n)
    else .error .malformed
  | none => .error .malformed

/-- What an escape stands for; the cursor is after the backslash. -/
def escape (c : Cursor) : Except Fault (List Char × Cursor) :=
  match c.next with
  | none => .error .malformed
  | some x =>
    match escapes.lookup x with
    | some y => .ok ([y], c.forward)
    | none =>
      match escapeDigits.lookup x with
      | some n => do
        let (code, c) ← hexNumber n c.forward
        if code.isValidChar then return ([Char.ofNat code], c)
        else if code < 0x110000 then throw .malformed
        else throw (.beyondCharacters code)
      | none =>
        match c.lineBreak? with
        | some (_, c) => quotedBreaks (c.rest.length + 1) c
        | none => .error .malformed

/-- A character that stands for itself between quotes. -/
def isQuotedText (x : Char) : Bool :=
  !(x == '\'' || x == '"' || x == '\\' || x == ' ' || x == '\t' || isBreak x)

/-- The words between quotes, up to a blank, a break or the closing quote. -/
def quotedWords (double : Bool) : Nat → Cursor → Except Fault (List Char × Cursor)
  | 0, _ => .error .malformed
  | n + 1, c =>
    let word := c.run isQuotedText
    let c := c.advance word.length
    let go := fun (part : List Char) (c : Cursor) => do
      let (more, c) ← quotedWords double n c
      return (word ++ part ++ more, c)
    match c.next with
    | some '\'' =>
      if double then go ['\''] c.forward
      else if c.peek 1 = some '\'' then go ['\''] (c.advance 2)
      else .ok (word, c)
    | some '"' => if double then .ok (word, c) else go ['"'] c.forward
    | some '\\' =>
      if double then do
        let (part, c) ← escape c.forward
        go part c
      else go ['\\'] c.forward
    | _ => .ok (word, c)

/-- The blanks and breaks between two words between quotes. -/
def quotedSpaces (c : Cursor) : Except Fault (List Char × Cursor) :=
  let blanks := c.run fun x => x == ' ' || x == '\t'
  let c := c.advance blanks.length
  match c.next with
  | none => .error .malformed
  | some _ =>
    match c.lineBreak? with
    | some (b, c) => do
      let (bs, c) ← quotedBreaks (c.rest.length + 1) c
      return (fold b bs, c)
    | none => .ok (blanks, c)

/-- The text up to the closing quote, and past it. -/
def quotedRest (double : Bool) : Nat → Cursor → Except Fault (List Char × Cursor)
  | 0, _ => .error .malformed
  | n + 1, c => do
    let (words, c) ← quotedWords double (c.rest.length + 1) c
    if c.next = some (if double then '"' else '\'') then return (words, c.forward)
    else
      let (spaces, c) ← quotedSpaces c
      let (more, c) ← quotedRest double n c
      return (words ++ spaces ++ more, c)

/-- **A scalar between quotes**; the cursor is at the opening one. -/
def quoted (double : Bool) (c : Cursor) : Except Fault (List Char × Cursor) :=
  quotedRest double (c.rest.length + 1) c.forward

/-! ## Plain -/

/-- Whether a plain scalar ends before what comes next. -/
def endsPlain (inFlow : Bool) : List Char → Bool
  | [] => true
  | x :: r =>
    endsToken (some x) ||
      (x == ':' && (endsToken r.head? ||
        (inFlow && (match r.head? with
          | some y => y == ',' || y == '[' || y == ']' || y == '\x7b' || y == '\x7d'
          | none => true)))) ||
      (inFlow && (x == ',' || x == '?' || x == '[' || x == ']' || x == '\x7b' || x == '\x7d'))

/-- The characters before the end of a plain scalar. -/
def plainRun (inFlow : Bool) : List Char → List Char
  | [] => []
  | x :: r => if endsPlain inFlow (x :: r) then [] else x :: plainRun inFlow r

/-- The breaks of empty lines in a plain scalar; none where a document mark ends it. -/
def plainBreaks : Nat → Cursor → Option (List Char) × Cursor
  | 0, c => (none, c)
  | n + 1, c =>
    let c := c.skip (· == ' ')
    match c.lineBreak? with
    | some (b, c) =>
      if c.atDocumentMark then (none, c)
      else
        let (bs, c) := plainBreaks n c
        (bs.map (b :: ·), c)
    | none => (some [], c)

/-- The blanks and breaks between two words of a plain scalar: what they count as, which is nothing
where the scalar ends, and whether there was a break. -/
def plainSpaces (c : Cursor) : List Char × Bool × Cursor :=
  let blanks := c.run (· == ' ')
  let c := c.advance blanks.length
  match c.lineBreak? with
  | none => (blanks, false, c)
  | some (b, c) =>
    if c.atDocumentMark then ([], true, c)
    else
      match plainBreaks (c.rest.length + 1) c with
      | (some bs, c) => (fold b bs, true, c)
      | (none, c) => ([], true, c)

/-- The text of a plain scalar after the blanks given, the cursor after it, and whether its last
blanks held a break. -/
def plainRest (inFlow : Bool) (indent : Nat) : Nat → List Char → Bool → Cursor →
    List Char × Bool × Cursor
  | 0, _, broke, c => ([], broke, c)
  | n + 1, spaces, broke, c =>
    if c.next = some '#' then ([], broke, c)
    else
      let word := plainRun inFlow c.rest
      if word.isEmpty then ([], broke, c)
      else
        let (after, broke, c) := plainSpaces (c.advance word.length)
        if after.isEmpty || c.next == some '#' || (!inFlow && c.column < indent) then
          (spaces ++ word, broke, c)
        else
          let (more, broke, c) := plainRest inFlow indent n after broke c
          (spaces ++ word ++ more, broke, c)

/-- **A plain scalar**, whose lines after the first stand at least as deep as asked for in a block:
its text, whether a break comes after it, and the cursor. -/
def plain (inFlow : Bool) (indent : Nat) (c : Cursor) : List Char × Bool × Cursor :=
  plainRest inFlow indent (c.rest.length + 1) [] false c

/-! ## Blocks -/

/-- What a block does with the breaks at its end. -/
inductive Chomp
  | keep
  | strip
  | clip
  deriving DecidableEq, Repr

/-- The header of a block: what it does with its last breaks, and how much deeper it stands. -/
def blockHeader (c : Cursor) : Except Fault ((Chomp × Option Nat) × Cursor) := do
  let sign := fun (c : Cursor) =>
    match c.next with
    | some '+' => (Chomp.keep, c.forward)
    | some '-' => (Chomp.strip, c.forward)
    | _ => (Chomp.clip, c)
  let digit := fun (c : Cursor) =>
    match c.next with
    | some x => if x.isDigit then (some (x.toNat - 48), c.forward) else (none, c)
    | none => (none, c)
  let (chomp, deeper, c) :=
    match sign c with
    | (.clip, c) =>
      match digit c with
      | (none, c) => (Chomp.clip, none, c)
      | (some d, c) =>
        let (chomp, c) := sign c
        (chomp, some d, c)
    | (chomp, c) =>
      let (d, c) := digit c
      (chomp, d, c)
  if deeper = some 0 then throw .malformed
  if !endsWord c.next then throw .malformed
  let c := (c.skip (· == ' ')).skipComment
  if !endsLine c.next then throw .malformed
  match c.lineBreak? with
  | some (_, c) => return ((chomp, deeper), c)
  | none => return ((chomp, deeper), c)

/-- The breaks before the first line of a block, the greatest column among them, and the cursor. -/
def blockLead : Nat → Nat → Cursor → List Char × Nat × Cursor
  | 0, deepest, c => ([], deepest, c)
  | n + 1, deepest, c =>
    if c.next = some ' ' then
      let c := c.forward
      blockLead n (max deepest c.column) c
    else
      match c.lineBreak? with
      | some (b, c) =>
        let (bs, deepest, c) := blockLead n deepest c
        (b :: bs, deepest, c)
      | none => ([], deepest, c)

/-- The breaks of empty lines in a block of an indentation, up to the text of the next line. -/
def blockBreaks (indent : Nat) : Nat → Cursor → List Char × Cursor
  | 0, c => ([], c)
  | n + 1, c =>
    let c := c.skipSpaces (indent - c.column)
    match c.lineBreak? with
    | some (b, c) =>
      let (bs, c) := blockBreaks indent n c
      (b :: bs, c)
    | none => ([], c)

/-- Whether a line of a block begins with a blank. -/
def leadsWithBlank (c : Cursor) : Bool :=
  c.next == some ' ' || c.next == some '\t'

/-- The lines of a block after the breaks given: its text, the last break, the breaks after that,
and the cursor. -/
def blockLines (folded : Bool) (indent : Nat) : Nat → List Char → Cursor →
    List Char × List Char × List Char × Cursor
  | 0, breaks, c => ([], [], breaks, c)
  | n + 1, breaks, c =>
    if c.column ≠ indent ∨ c.next = none then ([], [], breaks, c)
    else
      let blankLead := leadsWithBlank c
      let line := c.run (!isBreak ·)
      let c := c.advance line.length
      let (last, c) := match c.lineBreak? with
        | some (b, c) => ([b], c)
        | none => ([], c)
      let (after, c) := blockBreaks indent (c.rest.length + 1) c
      if c.column = indent ∧ c.next ≠ none then
        let joint :=
          if folded && last == ['\n'] && !blankLead && !leadsWithBlank c then
            if after.isEmpty then [' '] else []
          else last
        let (more, last, tail, c) := blockLines folded indent n after c
        (breaks ++ line ++ joint ++ more, last, tail, c)
      else (breaks ++ line, last, after, c)

/-- **A block scalar**; the cursor is after its indicator, and the indentation is that of the block
around it. -/
def block (folded : Bool) (around : Int) (c : Cursor) : Except Fault (List Char × Cursor) := do
  let ((chomp, deeper), c) ← blockHeader c
  let least := (max (around + 1) 1).toNat
  let (indent, breaks, c) :=
    match deeper with
    | some d =>
      let indent := least + d - 1
      let (bs, c) := blockBreaks indent (c.rest.length + 1) c
      (indent, bs, c)
    | none =>
      let (bs, deepest, c) := blockLead (c.rest.length + 1) 0 c
      (max least deepest, bs, c)
  let (text, last, tail, c) := blockLines folded indent (c.rest.length + 1) breaks c
  let ending := match chomp with
    | .strip => []
    | .clip => last
    | .keep => last ++ tail
  return (text ++ ending, c)

end Scalar

end Handout.Yaml
