import Handout.Data

/-!
# Values used as what they are not

A configuration file may hold a value of any shape. Where a part of it is used as a mapping, a list
or a text and is something else, the use fails; a `Misuse` says which use it was.
-/

namespace Handout

/-- A use that the value does not allow. -/
inductive Misuse
  /-- The kind of value has no such operation. -/
  | noOperation (kind operation : String)
  /-- The kind of value holds no members to look among. -/
  | noMembers (kind : String)
  /-- Bytes hold no texts to look among. -/
  | membersOfBytes
  /-- A list is asked for the item at a key that is no number. -/
  | listAt (kind : String)
  /-- A list is asked for an item beyond its ends. -/
  | listBeyond
  /-- A list is given an item beyond its ends. -/
  | listPutBeyond
  /-- A text is asked for the character at a key that is no number. -/
  | textAt (kind : String)
  /-- The kind of value has no items at keys. -/
  | noItems (kind : String)
  /-- The kind of value takes no items at keys. -/
  | takesNoItems (kind : String)
  deriving DecidableEq, Repr

/-- The message of a misuse. -/
def Misuse.message : Misuse → String
  | .noOperation kind operation => "'" ++ kind ++ "' object has no attribute '" ++ operation ++ "'"
  | .noMembers kind => "argument of type '" ++ kind ++ "' is not iterable"
  | .membersOfBytes => "a bytes-like object is required, not 'str'"
  | .listAt kind => "list indices must be integers or slices, not " ++ kind
  | .listBeyond => "list index out of range"
  | .listPutBeyond => "list assignment index out of range"
  | .textAt kind => "string indices must be integers, not '" ++ kind ++ "'"
  | .noItems kind => "'" ++ kind ++ "' object is not subscriptable"
  | .takesNoItems kind => "'" ++ kind ++ "' object does not support item assignment"

end Handout
