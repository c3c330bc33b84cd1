/-!
# Paths

The text of a path and its parts. Repeated separators, a separator at the end and parts that are a
single point say nothing, so `Path.ofText` drops them; two points stay, since what they mean depends
on links. A path begins at the working directory, at the root, or at the place that exactly two
separators name, which is kept apart from the root.

Nothing here asks whether a path exists.
-/

namespace Handout

/-- Where a path begins. -/
inductive Path.Anchor
  /-- The working directory. -/
  | here
  /-- The root. -/
  | root
  /-- Exactly two separators. -/
  | double
  deriving DecidableEq, Repr

/-- A path: where it begins, and the names that follow. -/
structure Path where
  anchor : Path.Anchor
  parts : List String
  deriving DecidableEq, Repr

namespace Path

/-- The anchor of a text, told by its separators in front. -/
def Anchor.ofChars : List Char → Anchor
  | '/' :: '/' :: '/' :: _ => .root
  | '/' :: '/' :: _ => .double
  | '/' :: _ => .root
  | _ => .here

/-- The separators of an anchor. -/
def Anchor.text : Anchor → String
  | .here => ""
  | .root => "/"
  | .double => "//"

/-- The names between the separators of a text, empty ones too. -/
def names (text : List Char) : List String :=
  (text.splitOn '/').map String.ofList

/-- A name that says where to go; the empty one and the single point do not. -/
def isStep (name : String) : Bool :=
  name ≠ "" && name ≠ "."

/-- The path of a text. -/
def ofChars (text : List Char) : Path :=
  ⟨Anchor.ofChars text, (names text).filter isStep⟩

/-- **The path of a text.** -/
def ofText (text : String) : Path :=
  ofChars text.toList

/-- **The text of a path**; the path that stays at the working directory is a single point. -/
def text (p : Path) : String :=
  if p.anchor = .here ∧ p.parts = [] then "."
  else p.anchor.text ++ "/".intercalate p.parts

/-- A path that does not depend on the working directory. -/
def isAbsolute (p : Path) : Bool :=
  p.anchor ≠ .here

/-- A path seen from another one: an absolute path stays as it is. -/
def join (base p : Path) : Path :=
  if p.isAbsolute then p else ⟨base.anchor, base.parts ++ p.parts⟩

/-- The path of an entry of a directory. -/
def child (p : Path) (name : String) : Path :=
  ⟨p.anchor, p.parts ++ [name]⟩

/-- The path without its last part, or the path itself where it has none. -/
def parent (p : Path) : Path :=
  ⟨p.anchor, p.parts.dropLast⟩

/-- The last part, or the empty text. -/
def name (p : Path) : String :=
  p.parts.getLast?.getD ""

/-- A path whose double points have taken back the part before them, as if no part were a link.
The parts kept so far are given last first. -/
def collapsed (kept : List String) : List String → List String
  | [] => kept.reverse
  | n :: r =>
    if n = ".." then collapsed kept.tail r else collapsed (n :: kept) r

/-- An absolute path without double points. -/
def collapse (p : Path) : Path :=
  ⟨p.anchor, collapsed [] p.parts⟩

/-! ## Suffixes -/

/-- What stands from the last point of a name on, where a point is. -/
def fromLastPoint? : List Char → Option (List Char)
  | [] => none
  | c :: r => (fromLastPoint? r).orElse fun _ => if c = '.' then some (c :: r) else none

/-- The suffix of a name, with its point: what follows the last point, unless the point is the
first or the last character of the name. -/
def suffixOf (name : String) : String :=
  let cs := name.toList
  match fromLastPoint? cs with
  | some s => if s.length < cs.length ∧ 1 < s.length then String.ofList s else ""
  | none => ""

/-- **Resolve a path** that a user gives against a working directory. -/
def resolve (cwd p : Path) : Path :=
  cwd.join p

end Path

end Handout
