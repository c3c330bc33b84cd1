/-!
# Patterns with ordered ends

A pattern is data. Its meaning at a place of a text is the list of the places where a match may end,
**in order of preference**: an alternative tries its left side first, a greedy run prefers its
longest stretch and a lazy run its shortest. The match at a place is the first end of that list, so
preference is list order and giving up a choice is going on to the next element.

`Pattern.spans` finds the matches of a text from left to right, each starting no earlier than the
end of the one before it, and `Pattern.erase` is the text with those stretches cut out.

**What it does not establish.** Runs range over one class of characters, never over a pattern, so
this is not the whole algebra of regular expressions; and a match of no characters is passed over.
-/

namespace Handout

/-- A set of characters that a pattern may ask for. -/
inductive CharClass
  /-- One character. -/
  | exactly (c : Char)
  /-- A space or a tab. -/
  | blank
  /-- Any character that stays on the line. -/
  | inline
  /-- Any character, line feeds too. -/
  | any
  deriving DecidableEq, Repr

/-- Membership of a character in a class. -/
def CharClass.holds : CharClass → Char → Bool
  | .exactly d, c => c == d
  | .blank, c => c == ' ' || c == '\t'
  | .inline, c => c != '\n'
  | .any, _ => true

/-- Patterns over characters. -/
inductive Pattern
  /-- Matches nothing, and moves nowhere. -/
  | empty
  /-- One character of a class. -/
  | one (k : CharClass)
  /-- One pattern, then another. -/
  | seq (p q : Pattern)
  /-- The first pattern where it matches, and the second as the next choice. -/
  | alt (p q : Pattern)
  /-- A run of a class, longest first. -/
  | greedy (k : CharClass)
  /-- A run of a class, shortest first. -/
  | lazy (k : CharClass)
  /-- Moves nowhere, and matches where the pattern does not. -/
  | notAhead (p : Pattern)
  /-- Matches at the start of a line. -/
  | lineStart
  /-- Matches at the end of the text. -/
  | textEnd
  deriving DecidableEq, Repr

/-- A place in a text: whether a line starts there, and what follows. -/
structure Place where
  lineStart : Bool
  rest : List Char
  deriving DecidableEq, Repr

/-- The places reached by taking characters of a class, nearest first. -/
def CharClass.runs (k : CharClass) : Bool → List Char → List Place
  | b, [] => [⟨b, []⟩]
  | b, c :: r => ⟨b, c :: r⟩ :: if k.holds c then k.runs (c == '\n') r else []

namespace Pattern

/-- **The ends of a match** at a place, in order of preference. -/
def ends : Pattern → Place → List Place
  | .empty, s => [s]
  | .one k, s =>
    match s.rest with
    | [] => []
    | c :: r => if k.holds c then [⟨c == '\n', r⟩] else []
  | .seq p q, s => (p.ends s).flatMap q.ends
  | .alt p q, s => p.ends s ++ q.ends s
  | .greedy k, s => (k.runs s.lineStart s.rest).reverse
  | .lazy k, s => k.runs s.lineStart s.rest
  | .notAhead p, s => if (p.ends s).isEmpty then [s] else []
  | .lineStart, s => if s.lineStart then [s] else []
  | .textEnd, s => if s.rest.isEmpty then [s] else []

/-- The preferred end of a match at a place, where there is a match. -/
def end? (p : Pattern) (s : Place) : Option Place :=
  (p.ends s).head?

/-- How many characters the preferred match at a place takes. -/
def width? (p : Pattern) (s : Place) : Option Nat :=
  (p.end? s).map fun e => s.rest.length - e.rest.length

/-- The pattern of a fixed text. -/
def literal : List Char → Pattern
  | [] => .empty
  | c :: r => .seq (.one (.exactly c)) (literal r)

/-- Patterns one after the other. -/
def sequence : List Pattern → Pattern
  | [] => .empty
  | p :: ps => .seq p (sequence ps)

/-! ## Finding every match -/

/-- The stretches matched from a place on, as pairs of a start and an end counted in characters.
The first number is the place, the second how much of the last match is still to pass. -/
def spansFrom (p : Pattern) (lineStart : Bool) : Nat → Nat → List Char → List (Nat × Nat)
  | _, _, [] => []
  | i, k + 1, c :: r => p.spansFrom (c == '\n') (i + 1) k r
  | i, 0, c :: r =>
    match p.width? ⟨lineStart, c :: r⟩ with
    | some (n + 1) => (i, i + n + 1) :: p.spansFrom (c == '\n') (i + 1) n r
    | _ => p.spansFrom (c == '\n') (i + 1) 0 r

/-- **The matches of a text**, from left to right and apart from each other. -/
def spans (p : Pattern) (text : List Char) : List (Nat × Nat) :=
  p.spansFrom true 0 0 text

/-- What is left of a text from a place on, once the matches are cut out. -/
def eraseFrom (p : Pattern) (lineStart : Bool) : Nat → List Char → List Char
  | _, [] => []
  | k + 1, c :: r => p.eraseFrom (c == '\n') k r
  | 0, c :: r =>
    match p.width? ⟨lineStart, c :: r⟩ with
    | some (n + 1) => p.eraseFrom (c == '\n') n r
    | _ => c :: p.eraseFrom (c == '\n') 0 r

/-- **A text without its matches.** -/
def erase (p : Pattern) (text : List Char) : List Char :=
  p.eraseFrom true 0 text

end Pattern

end Handout
