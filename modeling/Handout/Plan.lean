import Handout.Marker

/-!
# What becomes of a file

`Variant.transform` gives the text of a variant, and `Plan.of` decides between deleting a file and
rewriting it. Both depend on the text alone; nothing here reads or writes a file.
-/

namespace Handout

/-- **The text of a variant**: the annotated text without what the variant removes. -/
def Variant.transform (v : Variant) (text : List Char) : List Char :=
  v.removal.erase text

/-- What becomes of one file. -/
inductive Plan
  | delete
  | rewrite (text : List Char)
  deriving DecidableEq, Repr

/-- A text that begins with the deletion mark is deleted, whatever follows the mark on its line;
any other text is rewritten. -/
def Plan.of (v : Variant) (text : List Char) : Plan :=
  if v.deletionMark.toList.isPrefixOf text then .delete else .rewrite (v.transform text)

/-- What was done to one file. -/
inductive FileAction
  | deleted
  | rewritten
  deriving DecidableEq, Repr

/-- The word for an action in reports. -/
def FileAction.word : FileAction → String
  | .deleted => "deleted"
  | .rewritten => "rewritten"

/-- The action that carries a plan out. -/
def Plan.action : Plan → FileAction
  | .delete => .deleted
  | .rewrite _ => .rewritten

end Handout
