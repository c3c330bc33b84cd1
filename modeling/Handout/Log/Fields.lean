import Handout.Data

/-!
# Fields of events

Values under names, in the order in which the names were first put. `Fields.get?` is the view; the
laws say what `put` and `erase` do to it.
-/

namespace Handout

/-- Values under names. -/
abbrev Fields := List (String × Data)

namespace Fields

/-- The value under a name. -/
def get? (f : Fields) (name : String) : Option Data :=
  f.lookup name

/-- Fields with a value under a name. A name that is there keeps its place. -/
def put (f : Fields) (name : String) (d : Data) : Fields :=
  match f with
  | [] => [(name, d)]
  | x :: r => if x.1 = name then (name, d) :: r else x :: put r name d

/-- Fields with others put over them, one after the other. -/
def merge (f layer : Fields) : Fields :=
  layer.foldl (fun f x => put f x.1 x.2) f

/-- Fields without those of some names. -/
def erase (f : Fields) (names : List String) : Fields :=
  f.filter fun x => !names.contains x.1

/-- What is put under a name is there, and every other name keeps its value. -/
theorem get?_put (f : Fields) (name other : String) (d : Data) :
    get? (put f name d) other = if other = name then some d else get? f other := by
  induction f with
  | nil => by_cases h : other = name <;> simp [get?, put, List.lookup_cons, h, beq_false_of_ne]
  | cons x r ih =>
    obtain ⟨m, v⟩ := x
    simp only [get?] at ih ⊢
    by_cases h : m = name
    · subst h
      by_cases q : other = m <;> simp [put, List.lookup_cons, q, beq_false_of_ne]
    · simp only [put, h, if_false]
      by_cases q : other = m
      · subst q; simp [h]
      · simp [List.lookup_cons, beq_false_of_ne q, ih]

/-- A name that is erased has no value, and every other name keeps its value. -/
theorem get?_erase (f : Fields) (names : List String) (other : String) :
    get? (erase f names) other = if other ∈ names then none else get? f other := by
  induction f with
  | nil => simp [get?, erase]
  | cons x r ih =>
    obtain ⟨m, v⟩ := x
    simp only [get?, erase] at ih ⊢
    by_cases h : m ∈ names
    · rw [List.filter_cons_of_neg (by simpa using h)]
      by_cases q : other = m
      · subst q; simpa [h] using ih
      · simpa [List.lookup_cons, beq_false_of_ne q] using ih
    · rw [List.filter_cons_of_pos (by simpa using h)]
      by_cases q : other = m
      · subst q; simp [h]
      · simpa [List.lookup_cons, beq_false_of_ne q] using ih

end Fields

end Handout
