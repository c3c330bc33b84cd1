/-!
# Lines

A text cut after every line feed, and only there: each line keeps its line feed, and only the last
one may lack it. `flatten_ofText` says that nothing is lost.
-/

namespace Handout.Line

/-- A character put before the first of some lines. -/
def consFirst (c : Char) : List (List Char) → List (List Char)
  | [] => [[c]]
  | l :: ls => (c :: l) :: ls

/-- **The lines of a text.** -/
def ofText : List Char → List (List Char)
  | [] => []
  | c :: r => if c = '\n' then [c] :: ofText r else consFirst c (ofText r)

theorem flatten_consFirst (c : Char) (ls : List (List Char)) :
    (consFirst c ls).flatten = c :: ls.flatten := by
  cases ls <;> rfl

/-- The lines of a text make the text. -/
theorem flatten_ofText (text : List Char) : (ofText text).flatten = text := by
  induction text with
  | nil => rfl
  | cons c r ih =>
    by_cases h : c = '\n'
    · simp [ofText, h, ih]
    · simp [ofText, h, flatten_consFirst, ih]

end Handout.Line
