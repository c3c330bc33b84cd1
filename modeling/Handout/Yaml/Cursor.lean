/-!
# A place in a document

A cursor counts the characters, lines and columns before it. The end of the document is the place
with nothing after it. Line breaks are the line feed, the next-line character and the line and
paragraph separators; a byte order mark takes no column.
-/

namespace Handout.Yaml

/-- A character that breaks a line. -/
def isBreak (c : Char) : Bool :=
  c == '\n' || c == '\x85' || c == '\u2028' || c == '\u2029'

/-- Whether what follows is a line break or the end. -/
def endsLine : Option Char → Bool
  | none => true
  | some c => isBreak c

/-- Whether what follows is a space, a line break or the end. -/
def endsWord : Option Char → Bool
  | none => true
  | some c => c == ' ' || isBreak c

/-- Whether what follows is a space, a tab, a line break or the end. -/
def endsToken : Option Char → Bool
  | none => true
  | some c => c == ' ' || c == '\t' || isBreak c

/-- A character of a name: an ASCII letter or digit, a hyphen or an underscore. -/
def isNameChar (c : Char) : Bool :=
  c.isAlphanum || c == '-' || c == '_'

/-- A place in a document. -/
structure Cursor where
  index : Nat
  line : Nat
  column : Nat
  rest : List Char
  deriving Repr

namespace Cursor

/-- The start of a document. -/
def start (text : List Char) : Cursor := ⟨0, 0, 0, text⟩

/-- The character so many places on. -/
def peek (c : Cursor) (n : Nat) : Option Char :=
  c.rest[n]?

/-- The next character. -/
def next (c : Cursor) : Option Char :=
  c.rest.head?

/-- The cursor one character on. -/
def forward (c : Cursor) : Cursor :=
  match c.rest with
  | [] => c
  | x :: r =>
    if isBreak x then ⟨c.index + 1, c.line + 1, 0, r⟩
    else if x = '\uFEFF' then ⟨c.index + 1, c.line, c.column, r⟩
    else ⟨c.index + 1, c.line, c.column + 1, r⟩

/-- The cursor so many characters on. -/
def advance : Nat → Cursor → Cursor
  | 0, c => c
  | n + 1, c => advance n c.forward

/-- The characters of a class that come next. -/
def run (p : Char → Bool) (c : Cursor) : List Char :=
  c.rest.takeWhile p

/-- The cursor after the characters of a class that come next. -/
def skip (p : Char → Bool) (c : Cursor) : Cursor :=
  c.advance (c.run p).length

/-- The cursor after the spaces that come next, but not past a column. -/
def skipSpaces : Nat → Cursor → Cursor
  | 0, c => c
  | n + 1, c => if c.next = some ' ' then skipSpaces n c.forward else c

/-- A line break, where one comes next: the break as it counts in a text, and the cursor after it. -/
def lineBreak? (c : Cursor) : Option (Char × Cursor) :=
  match c.next with
  | some x =>
    if isBreak x then
      some (if x = '\u2028' ∨ x = '\u2029' then x else '\n', c.forward)
    else none
  | none => none

/-- Whether three hyphens or three points stand alone here. -/
def atDocumentMark (c : Cursor) : Bool :=
  (['-', '-', '-'].isPrefixOf c.rest || ['.', '.', '.'].isPrefixOf c.rest) && endsToken (c.peek 3)

/-- The cursor after a comment, where one starts here. -/
def skipComment (c : Cursor) : Cursor :=
  if c.next = some '#' then c.skip (!isBreak ·) else c

end Cursor

end Handout.Yaml
