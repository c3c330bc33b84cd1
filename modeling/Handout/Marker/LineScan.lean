import Handout.Marker
import Handout.Text.Line

/-!
# Removal by lines

What a variant removes, told line by line and without patterns. A tag is a comment token, blanks, and
words, or the other way round. A line *opens* a block when a start tag of the family stands on it with
no end tag after it.

The scan goes from the first line to the last. A line that opens a block of the other family starts a
removal through the next line with its end tag, if there is one. Otherwise a line goes alone when it
holds a tag of the variant's own family or marks a file of the variant. `LineScan.kept` is what stays,
and `LineScan.spans` where what goes stands in the text.

**What it does not establish.** Nothing here says that the scan agrees with `Variant.removal`; the two
are defined apart so that it can be said.
-/

namespace Handout

/-- A tag: what it begins with, and what it ends with after blanks. -/
structure Tag where
  opening : List Char
  closing : List Char
  deriving DecidableEq, Repr

namespace Tag

/-- The tag that starts a region of a family. -/
def start : Variant → Tag
  | .problem => ⟨"/*".toList, "START PROBLEM".toList⟩
  | .solution => ⟨"//".toList, "START SOLUTION".toList⟩

/-- The tag that ends a region of a family. -/
def stop : Variant → Tag
  | .problem => ⟨"END PROBLEM".toList, "*/".toList⟩
  | .solution => ⟨"//".toList, "END SOLUTION".toList⟩

/-- What follows a given start of a text. -/
def drop? : List Char → List Char → Option (List Char)
  | [], r => some r
  | _ :: _, [] => none
  | p :: ps, c :: r => if p = c then drop? ps r else none

/-- A character that may stand between the parts of a tag. -/
def isBlank (c : Char) : Bool := c == ' ' || c == '\t'

/-- What follows a tag at the start of a text. -/
def after? (t : Tag) (text : List Char) : Option (List Char) :=
  (drop? t.opening text).bind fun r => drop? t.closing (r.dropWhile isBlank)

/-- Whether a tag stands on a line. -/
def isOn (t : Tag) : List Char → Bool
  | [] => false
  | c :: r => (t.after? (c :: r)).isSome || t.isOn r

end Tag

namespace LineScan

/-- Whether a line opens a block of a family: a start tag with no end tag after it. -/
def opens (v : Variant) : List Char → Bool
  | [] => false
  | c :: r =>
    (match (Tag.start v).after? (c :: r) with
      | some rest => !(Tag.stop v).isOn rest
      | none => false) || opens v r

/-- Whether a line closes a block of a family. -/
def closes (v : Variant) (line : List Char) : Bool :=
  (Tag.stop v).isOn line

/-- Whether a line marks a file of a variant: the mark and a line break, and nothing else. -/
def isFileMark (v : Variant) (line : List Char) : Bool :=
  line == v.fileMark.toList ++ ['\n'] || line == v.fileMark.toList ++ ['\r', '\n']

/-- Whether a line goes alone. -/
def goesAlone (v : Variant) (line : List Char) : Bool :=
  (Tag.start v).isOn line || (Tag.stop v).isOn line || isFileMark v line

/-- Whether a line starts the removal of a block of the other family, given the lines after it. -/
def startsBlock (v : Variant) (line : List Char) (rest : List (List Char)) : Bool :=
  opens v.other line && rest.any (closes v.other)

/-- The lines that stay. The first argument says whether a block is being removed. -/
def keptFrom (v : Variant) : Bool → List (List Char) → List (List Char)
  | _, [] => []
  | true, l :: ls => keptFrom v (!closes v.other l) ls
  | false, l :: ls =>
    if startsBlock v l ls then keptFrom v true ls
    else if goesAlone v l then keptFrom v false ls
    else l :: keptFrom v false ls

/-- **The lines that a variant keeps.** -/
def kept (v : Variant) (lines : List (List Char)) : List (List Char) :=
  keptFrom v false lines

/-- Where what goes stands, from a place on. The first number is where the block began that is being
removed, if one is. -/
def spansFrom (v : Variant) : Option Nat → Nat → List (List Char) → List (Nat × Nat)
  | _, _, [] => []
  | some first, i, l :: ls =>
    if closes v.other l then (first, i + l.length) :: spansFrom v none (i + l.length) ls
    else spansFrom v (some first) (i + l.length) ls
  | none, i, l :: ls =>
    if startsBlock v l ls then spansFrom v (some i) (i + l.length) ls
    else if goesAlone v l then (i, i + l.length) :: spansFrom v none (i + l.length) ls
    else spansFrom v none (i + l.length) ls

/-- **Where what a variant removes stands in a text**, counted in characters. -/
def spans (v : Variant) (text : List Char) : List (Nat × Nat) :=
  spansFrom v none 0 (Line.ofText text)

end LineScan

end Handout
