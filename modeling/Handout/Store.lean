/-!
# The store of files

A store maps locations to files, directories and links. A **location** is the list of names from the
root down, with no links on the way; a **path** is found by walking its names from a location, and
`Store.resolve` follows the links it meets, at most `Store.mostLinks` of them. The root is always a
directory.

`Store.get?` is the view of a store; the laws say what `put` and `erase` do to it.

**What it does not establish.** Nothing forces a location's parent to be in the store: an operation
that would put an entry where no directory is fails before it gets here.
-/

namespace Handout

/-- A place in the store: the names from the root down. -/
abbrev Location := List String

/-- What a store holds at a location. -/
inductive Entry
  | file (content : List UInt8)
  | dir
  | link (target : String)
  deriving DecidableEq, Repr

/-- Why the system refuses a call. -/
inductive OsError
  | notPermitted
  | absent
  | inputOutput
  | denied
  | busy
  | present
  | notDirectory
  | isDirectory
  | noSpace
  | readOnly
  | nameTooLong
  | tooManyLinks
  /-- A refusal without a number, of which only the text is known. -/
  | other (text : String)
  deriving DecidableEq, Repr

namespace OsError

/-- The number of an error, where it has one. -/
def number? : OsError → Option Nat
  | .notPermitted => some 1
  | .absent => some 2
  | .inputOutput => some 5
  | .denied => some 13
  | .busy => some 16
  | .present => some 17
  | .notDirectory => some 20
  | .isDirectory => some 21
  | .noSpace => some 28
  | .readOnly => some 30
  | .nameTooLong => some 36
  | .tooManyLinks => some 40
  | .other _ => none

/-- The errors that have a number. -/
def numbered : List OsError :=
  [.notPermitted, .absent, .inputOutput, .denied, .busy, .present, .notDirectory, .isDirectory,
    .noSpace, .readOnly, .nameTooLong, .tooManyLinks]

/-- The error that has a number. -/
def ofNumber? (n : Nat) : Option OsError :=
  numbered.find? fun e => e.number? = some n

/-- The reason that a message gives. -/
def reason : OsError → String
  | .notPermitted => "Operation not permitted"
  | .absent => "No such file or directory"
  | .inputOutput => "Input/output error"
  | .denied => "Permission denied"
  | .busy => "Device or resource busy"
  | .present => "File exists"
  | .notDirectory => "Not a directory"
  | .isDirectory => "Is a directory"
  | .noSpace => "No space left on device"
  | .readOnly => "Read-only file system"
  | .nameTooLong => "File name too long"
  | .tooManyLinks => "Too many levels of symbolic links"
  | .other text => text

end OsError

/-- A store: entries at distinct locations. -/
structure Store where
  entries : List (Location × Entry)
  distinct : (entries.map Prod.fst).Nodup := by decide

namespace Store

/-- The store that holds nothing. -/
def empty : Store := ⟨[], by decide⟩

/-- **The entry at a location.** -/
def get? (s : Store) (l : Location) : Option Entry :=
  if l = [] then some .dir else s.entries.lookup l

/-- Entries with one of them set. -/
def setEntry (l : Location) (e : Entry) : List (Location × Entry) → List (Location × Entry)
  | [] => [(l, e)]
  | x :: r => if x.1 = l then (l, e) :: r else x :: setEntry l e r

theorem map_fst_setEntry (l : Location) (e : Entry) (es : List (Location × Entry)) :
    (setEntry l e es).map Prod.fst =
      if l ∈ es.map Prod.fst then es.map Prod.fst else es.map Prod.fst ++ [l] := by
  induction es with
  | nil => rfl
  | cons x r ih =>
    by_cases h : x.1 = l
    · simp [setEntry, h]
    · by_cases m : l ∈ r.map Prod.fst
      · simp only [setEntry, h, if_false, List.map_cons, ih, m, if_true]
        rw [if_pos (List.mem_cons_of_mem _ m)]
      · have n : ¬ l ∈ (x :: r).map Prod.fst := by
          simp only [List.map_cons, List.mem_cons, not_or]
          exact ⟨fun q => h q.symm, m⟩
        rw [if_neg n]
        simp only [setEntry, h, if_false, List.map_cons, ih, m, List.cons_append]

theorem nodup_setEntry {l : Location} {e : Entry} {es : List (Location × Entry)}
    (h : (es.map Prod.fst).Nodup) : ((setEntry l e es).map Prod.fst).Nodup := by
  rw [map_fst_setEntry]
  by_cases m : l ∈ es.map Prod.fst
  · rw [if_pos m]; exact h
  · rw [if_neg m]
    refine List.nodup_append.mpr ⟨h, List.nodup_cons.mpr ⟨List.not_mem_nil, List.nodup_nil⟩, ?_⟩
    intro a ha b hb e
    rw [List.mem_singleton] at hb
    exact m (hb ▸ e ▸ ha)

/-- A store with an entry at a location. -/
def put (s : Store) (l : Location) (e : Entry) : Store :=
  ⟨setEntry l e s.entries, nodup_setEntry s.distinct⟩

/-- A store without the entry at a location. -/
def erase (s : Store) (l : Location) : Store :=
  ⟨s.entries.filter fun x => x.1 ≠ l, (s.distinct.sublist ((List.filter_sublist).map _))⟩

/-- The names in a directory. -/
def names (s : Store) (l : Location) : List String :=
  s.entries.filterMap fun x => if x.1.dropLast = l then x.1.getLast? else none

/-! ## Finding a path -/

/-- The most links that are followed to find one path. -/
def mostLinks : Nat := 40

/-- The most bytes of one name. -/
def mostNameBytes : Nat := 255

/-- Where a walk without following links gets to. -/
inductive Walk
  /-- The names are used up. -/
  | reached (l : Location)
  /-- A link in a directory, and the names still to walk after it. -/
  | atLink (dir : Location) (target : String) (rest : List String)
  | failed (e : OsError)
  deriving DecidableEq, Repr

/-- A walk along names from a location. The last name need not exist, and is not followed where
links at the end are asked to stay. -/
def walk (s : Store) (follow : Bool) : Location → List String → Walk
  | l, [] => .reached l
  | l, n :: rest =>
    match s.get? l with
    | none => .failed .absent
    | some (.file _) => .failed .notDirectory
    | some (.link _) => .failed .notDirectory
    | some .dir =>
      if n = "" ∨ n = "." then s.walk follow l rest
      else if n = ".." then s.walk follow l.dropLast rest
      else if mostNameBytes < n.utf8ByteSize then .failed .nameTooLong
      else
        match s.get? (l ++ [n]) with
        | none => if rest = [] then .reached (l ++ [n]) else .failed .absent
        | some (.link t) =>
          if rest = [] ∧ follow = false then .reached (l ++ [n]) else .atLink l t rest
        | some _ => s.walk follow (l ++ [n]) rest

/-- Where a link leads from: its directory, or the root. -/
def linkStart (dir : Location) (target : String) : Location :=
  if target.toList.head? = some '/' then [] else dir

/-- The names of a link's target. -/
def linkNames (target : String) : List String :=
  (target.toList.splitOn '/').map String.ofList

/-- The location that names lead to with so many links to follow. -/
def resolveWithin (s : Store) (follow : Bool) : Nat → Location → List String → Except OsError Location
  | links, l, names =>
    match s.walk follow l names with
    | .reached l => .ok l
    | .failed e => .error e
    | .atLink dir target rest =>
      match links with
      | 0 => .error .tooManyLinks
      | links + 1 =>
        s.resolveWithin follow links (linkStart dir target) (linkNames target ++ rest)

/-- **The location that names lead to** from a location. The last name need not exist. -/
def resolve (s : Store) (follow : Bool) (l : Location) (names : List String) :
    Except OsError Location :=
  s.resolveWithin follow mostLinks l names

/-! ## Laws of the view -/

theorem lookup_setEntry (l k : Location) (e : Entry) (es : List (Location × Entry)) :
    (setEntry l e es).lookup k = if k = l then some e else es.lookup k := by
  induction es with
  | nil => by_cases h : k = l <;> simp [setEntry, List.lookup_cons, h, beq_false_of_ne]
  | cons x r ih =>
    obtain ⟨m, v⟩ := x
    by_cases h : m = l
    · subst h
      by_cases q : k = m <;> simp [setEntry, List.lookup_cons, q, beq_false_of_ne]
    · simp only [setEntry, h, if_false]
      by_cases q : k = m
      · subst q; simp [h]
      · simp [List.lookup_cons, beq_false_of_ne q, ih]

/-- What is put at a location is there, and every other location keeps its entry. -/
theorem get?_put (s : Store) (l k : Location) (e : Entry) (h : l ≠ []) :
    (s.put l e).get? k = if k = l then some e else s.get? k := by
  by_cases hk : k = []
  · subst hk; simp [get?, Ne.symm h]
  · simp only [get?, hk, if_false, put]; exact lookup_setEntry l k e s.entries

/-- What is put at a location leaves every other one as it is. -/
theorem get?_put_ne (s : Store) {l k : Location} (h : k ≠ l) (e : Entry) :
    (s.put l e).get? k = s.get? k := by
  by_cases hk : k = []
  · simp only [get?, hk, if_true]
  · simp only [get?, hk, if_false, put, lookup_setEntry, if_neg h]

theorem lookup_filter_ne (l k : Location) (es : List (Location × Entry)) :
    (es.filter fun x => x.1 ≠ l).lookup k = if k = l then none else es.lookup k := by
  induction es with
  | nil => simp [List.lookup_nil]
  | cons x r ih =>
    obtain ⟨m, v⟩ := x
    by_cases h : m = l
    · subst h
      by_cases q : k = m
      · subst q; simpa using ih
      · simp only [ne_eq, not_true_eq_false, decide_false, Bool.false_eq_true, not_false_eq_true,
          List.filter_cons_of_neg, List.lookup_cons, beq_false_of_ne q]
        exact ih
    · rw [List.filter_cons_of_pos (by simpa using h)]
      by_cases q : k = m
      · subst q; simp [h]
      · simp only [List.lookup_cons, beq_false_of_ne q]; exact ih

/-- What is erased is gone, and every other location keeps its entry. -/
theorem get?_erase (s : Store) (l k : Location) (h : l ≠ []) :
    (s.erase l).get? k = if k = l then none else s.get? k := by
  by_cases hk : k = []
  · subst hk; simp [get?, Ne.symm h]
  · simp only [get?, hk, if_false, erase]; exact lookup_filter_ne l k s.entries

end Store

end Handout
