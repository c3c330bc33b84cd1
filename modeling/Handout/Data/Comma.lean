import Handout.Data
import Handout.Text.Blank

/-!
# Lists written with commas

A list of texts may be written as one text: the items stand between commas, blanks around an item do
not belong to it, and items of blanks alone are none.
-/

namespace Handout.Comma

/-- **The items of a text.** -/
def items (text : List Char) : List (List Char) :=
  ((text.splitOn ',').map Blank.trim).filter (· ≠ [])

/-- The items of a text, as texts. -/
def split (text : String) : List String :=
  (items text.toList).map String.ofList

/-- A value in which a text is read as the list of its items. -/
def expand : Data → Data
  | .text s => .list ((split s).map .text)
  | d => d

end Handout.Comma
