import Handout.Text.CaseTable

/-!
# Letter case

`LowerCase.fold` is the full lower-case map of Unicode, read from left to right. Two characters are
not simple: the dotted capital I becomes two characters, and a capital sigma becomes a final one
when a letter with case stands before it and none after it, the ignorable characters passed over.

`UpperCase.fold` knows only the characters whose upper case is a word of the letters A to Z, and
leaves every other character as it is. That is enough to look a word up in a table of such words.
-/

namespace Handout

/-- The simple lower-case map. -/
def LowerCase.simple (c : Char) : Char :=
  match LowerCase.runs.find? fun r =>
    r.1 ≤ c.toNat && c.toNat ≤ r.2.1 && (c.toNat - r.1) % r.2.2.1 == 0 with
  | some r => Char.ofNat ((c.toNat : Int) + r.2.2.2).toNat
  | none => c

/-- A letter with case is the first character of a text that is not ignorable. -/
def LowerCase.casedNext (text : List Char) : Bool :=
  match text.dropWhile LowerCase.ignorable.has with
  | [] => false
  | c :: _ => LowerCase.cased.has c

/-- The lower case of a character between the text before it, nearest first, and the text after. -/
def LowerCase.between (before : List Char) (c : Char) (after : List Char) : List Char :=
  if c = 'İ' then ['i', '\u0307']
  else if c = 'Σ' then
    [if LowerCase.casedNext before && !LowerCase.casedNext after then 'ς' else 'σ']
  else [LowerCase.simple c]

/-- The lower case of a text that follows another, which is given nearest first. -/
def LowerCase.foldAfter : List Char → List Char → List Char
  | _, [] => []
  | before, c :: after =>
    LowerCase.between before c after ++ LowerCase.foldAfter (c :: before) after

/-- **The lower case of a text.** -/
def LowerCase.fold (text : List Char) : List Char :=
  LowerCase.foldAfter [] text

/-- The characters outside ASCII whose upper case is a word of the letters A to Z. -/
def UpperCase.words : List (Char × List Char) := [
  ('ß', ['S', 'S']), ('ı', ['I']), ('ſ', ['S']), ('ﬀ', ['F', 'F']), ('ﬁ', ['F', 'I']),
  ('ﬂ', ['F', 'L']), ('ﬃ', ['F', 'F', 'I']), ('ﬄ', ['F', 'F', 'L']), ('ﬅ', ['S', 'T']),
  ('ﬆ', ['S', 'T'])]

/-- The upper case of a text, for comparison with words of the letters A to Z. -/
def UpperCase.fold (text : List Char) : List Char :=
  text.flatMap fun c => (UpperCase.words.lookup c).getD [c.toUpper]

end Handout
