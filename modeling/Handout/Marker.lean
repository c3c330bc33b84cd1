import Handout.Pattern

/-!
# The marker grammar

One annotated source file carries both variants of an exercise. A region of the solution stands
between `// START SOLUTION` and `// END SOLUTION`, a region of the problem between
`/* START PROBLEM` and `END PROBLEM */`, and a first line `/* PROBLEM FILE */` or
`/* SOLUTION FILE */` marks a file that exists in one variant only.

A variant loses the **blocks** of the other family whole, the **tag lines** of its own family, and
the line that names its own file kind. `Variant.removal` says so as one pattern, whose alternatives
stand in that order.

Tags are case-sensitive, and only spaces and tabs may stand between a comment token and its words,
so a tag never spans two lines. A line that closes its own start tag opens no block.
-/

namespace Handout

/-- A variant of the exercise, and the family of regions that only it keeps. -/
inductive Variant
  | problem
  | solution
  deriving DecidableEq, Repr

namespace Variant

/-- The variant that is not this one. -/
def other : Variant → Variant
  | .problem => .solution
  | .solution => .problem

theorem other_ne (v : Variant) : v.other ≠ v := by
  cases v <;> decide

/-- There are two variants. -/
theorem eq_or_eq_other (f v : Variant) : f = v ∨ f = v.other := by
  cases f <;> cases v <;> decide

instance {p : Variant → Prop} [DecidablePred p] : Decidable (∀ v, p v) :=
  decidable_of_iff (p .problem ∧ p .solution)
    ⟨fun h v => match v with | .problem => h.1 | .solution => h.2, fun h => ⟨h _, h _⟩⟩

/-- The word for a variant, in requests and in reports. -/
def word : Variant → String
  | .problem => "problem"
  | .solution => "solution"

/-- The variant that a word names. -/
def ofWord? (w : String) : Option Variant :=
  if w = "problem" then some .problem else if w = "solution" then some .solution else none

/-- The line that marks a file of one variant only. -/
def fileMark : Variant → String
  | .problem => "/* PROBLEM FILE */"
  | .solution => "/* SOLUTION FILE */"

/-- The mark that deletes a whole file from a variant: the mark of the other one. -/
def deletionMark (v : Variant) : String :=
  v.other.fileMark

/-! ## Tags -/

/-- The tag that starts a region of a family. -/
def startTag : Variant → Pattern
  | .problem => .sequence [.literal "/*".toList, .greedy .blank, .literal "START PROBLEM".toList]
  | .solution => .sequence [.literal "//".toList, .greedy .blank, .literal "START SOLUTION".toList]

/-- The tag that ends a region of a family. -/
def endTag : Variant → Pattern
  | .problem => .sequence [.literal "END PROBLEM".toList, .greedy .blank, .literal "*/".toList]
  | .solution => .sequence [.literal "//".toList, .greedy .blank, .literal "END SOLUTION".toList]

end Variant

namespace Marker

/-- From the start of a line through a tag on it. -/
def throughTag (tag : Pattern) : Pattern :=
  .sequence [.lineStart, .greedy .inline, tag]

/-- A line break, with or without a carriage return. -/
def lineBreak : Pattern :=
  .alt (.literal ['\r', '\n']) (.literal ['\n'])

/-- Where a removed line ends: at its line break, or with the text. -/
def lineEnd : Pattern :=
  .alt lineBreak .textEnd

/-- A whole line that holds a tag. -/
def tagLine (tag : Pattern) : Pattern :=
  .sequence [throughTag tag, .greedy .inline, lineEnd]

/-- A block of a family: a line with a start tag and no end tag after it, through the nearest line
below with an end tag. -/
def block (v : Variant) : Pattern :=
  .sequence [throughTag v.startTag, .notAhead (.seq (.greedy .inline) v.endTag), .greedy .inline,
    .literal ['\n'], .lazy .any, tagLine v.endTag]

/-- The line that marks a file of a variant. -/
def fileMarkLine (v : Variant) : Pattern :=
  .sequence [.lineStart, .literal v.fileMark.toList, lineBreak]

end Marker

/-- **What a variant removes**: blocks of the other family, tag lines of its own, its file mark. -/
def Variant.removal (v : Variant) : Pattern :=
  .alt (Marker.block v.other) <| .alt (Marker.tagLine v.startTag) <|
    .alt (Marker.tagLine v.endTag) (Marker.fileMarkLine v)

end Handout
