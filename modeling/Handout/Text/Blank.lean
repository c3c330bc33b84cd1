import Handout.Text.Range

/-!
# Blank characters

The white space of Unicode, as the standard's properties give it: the characters of bidirectional
class B, S or WS and those of category Zs. The zero-width space is not among them. `Blank.trim`
takes blanks off both ends of a text.
-/

namespace Handout

/-- The stretches of blank characters. -/
def Blank.ranges : CodeRanges := [
  (9, 13), (28, 32), (133, 133), (160, 160), (5760, 5760), (8192, 8202), (8232, 8233), (8239, 8239),
  (8287, 8287), (12288, 12288)]

/-- A blank character. -/
def Blank.holds (c : Char) : Bool :=
  Blank.ranges.has c

/-- A text without the blanks at its start and its end. -/
def Blank.trim (text : List Char) : List Char :=
  ((text.dropWhile Blank.holds).reverse.dropWhile Blank.holds).reverse

end Handout
