import Handout.Path

/-!
# Roots

A path that a user gives is resolved against a working directory. What comes out is absolute, and its
text is in normal form (`Normal`): one separator or exactly two, then the names, with one separator
between each two of them. Double points are names like any other, since what they mean depends on
links.

Two laws carry the rest. An absolute path whose names say where to go is read back from its text
(`ofText_text`), so a root that was resolved once stays what it is. And a text that continues another
one after a separator has the names of both (`parts_continued`), so a root can be resolved step by step
(`resolve_to_normal_form`).

**What it does not establish.** Nothing is said of what a path leads to: two roots with different
texts may be one directory.
-/

namespace Handout

/-- What stands between separators has no separator in it. -/
theorem not_mem_of_mem_splitOn {α : Type} [BEq α] [LawfulBEq α] {a : α} {xs ys : List α}
    (h : ys ∈ xs.splitOn a) : a ∉ ys := by
  induction xs generalizing ys with
  | nil =>
    rw [List.splitOn_nil, List.mem_singleton] at h
    rw [h]
    exact List.not_mem_nil
  | cons x xs ih =>
    rw [List.splitOn_cons_eq_if_modifyHead] at h
    split at h
    · rcases List.mem_cons.mp h with rfl | h
      · exact List.not_mem_nil
      · exact ih h
    · next hx =>
      -- the first piece grows by a character that is no separator
      cases hsplit : xs.splitOn a with
      | nil => exact absurd hsplit (List.splitOn_ne_nil a xs)
      | cons first rest =>
        rw [hsplit] at h ih
        rcases List.mem_cons.mp h with rfl | h
        · rw [List.mem_cons, not_or]
          exact ⟨fun hax => hx (hax ▸ beq_self_eq_true a), ih List.mem_cons_self⟩
        · exact ih (List.mem_cons_of_mem first h)

namespace Path

variable {a b c t : String} {names : List String}

/-- A name that says where to go, and is one name. -/
def IsPart (n : String) : Prop :=
  n ≠ "" ∧ n ≠ "." ∧ '/' ∉ n.toList

/-- **A text in normal form**, and the names in it. -/
structure Normal (t : String) (names : List String) : Prop where
  written : t = "/" ++ "/".intercalate names ∨ t = "//" ++ "/".intercalate names
  parts : ∀ n ∈ names, IsPart n

/-! ## The names of a text -/

theorem isStep_iff {n : String} : isStep n = true ↔ n ≠ "" ∧ n ≠ "." := by
  simp [isStep]

/-- The names of a path are told by its text. -/
theorem parts_ofText (t : String) : (ofText t).parts = (Path.names t.toList).filter isStep :=
  rfl

theorem isPart_of_mem {n : String} (h : n ∈ (ofText t).parts) : IsPart n := by
  obtain ⟨hmem, hstep⟩ := List.mem_filter.mp h
  obtain ⟨cs, hcs, rfl⟩ := List.mem_map.mp hmem
  obtain ⟨hempty, hpoint⟩ := isStep_iff.mp hstep
  refine ⟨hempty, hpoint, ?_⟩
  rw [String.toList_ofList]
  exact not_mem_of_mem_splitOn hcs

/-- A text and what follows a separator after it have the names of both. -/
theorem names_append (xs ys : List Char) :
    Path.names (xs ++ '/' :: ys) = Path.names xs ++ Path.names ys := by
  rw [Path.names, List.splitOn_append_cons_self, List.map_append]
  rfl

/-- Names that say where to go are the steps of the text that they make. -/
theorem steps_intercalate (h : ∀ n ∈ names, IsPart n) :
    (Path.names ("/".intercalate names).toList).filter isStep = names := by
  cases hnames : names with
  | nil => rfl
  | cons n r =>
    rw [← hnames]
    have hne : names.map String.toList ≠ [] := by simp [hnames]
    have hnone : ∀ cs ∈ names.map String.toList, '/' ∉ cs := by
      intro cs hcs
      obtain ⟨m, hm, rfl⟩ := List.mem_map.mp hcs
      exact (h m hm).2.2
    have hsplit : Path.names ("/".intercalate names).toList = names := by
      have hslash : "/".toList = ['/'] := rfl
      rw [Path.names, String.toList_intercalate, hslash, List.splitOn_intercalate '/' hnone hne,
        List.map_map]
      exact (List.map_congr_left fun m _ => String.ofList_toList).trans (List.map_id names)
    rw [hsplit, List.filter_eq_self]
    exact fun m hm => isStep_iff.mpr ⟨(h m hm).1, (h m hm).2.1⟩

/-- A text of names does not begin with a separator. -/
theorem head?_intercalate_ne (h : ∀ n ∈ names, IsPart n) :
    ("/".intercalate names).toList.head? ≠ some '/' := by
  rw [String.toList_intercalate]
  cases names with
  | nil => exact nofun
  | cons n r =>
    obtain ⟨hempty, -, hnone⟩ := h n List.mem_cons_self
    -- the first character is that of the first name
    obtain ⟨x, xs, hn⟩ := List.exists_cons_of_ne_nil (mt String.toList_eq_nil_iff.mp hempty)
    have hx : x ≠ '/' := by
      rintro rfl
      exact hnone (hn ▸ List.mem_cons_self)
    cases r with
    | nil => simpa [hn] using hx
    | cons m r => simpa [hn, List.intercalate_cons_cons] using hx

/-! ## Where a text begins -/

theorem Anchor.ofChars_root {xs : List Char} (h : xs.head? ≠ some '/') :
    Anchor.ofChars ('/' :: xs) = .root := by
  cases xs with
  | nil => rfl
  | cons x xs =>
    have hx : x ≠ '/' := fun hx => h (congrArg some hx)
    simp [Anchor.ofChars, hx]

theorem Anchor.ofChars_double {xs : List Char} (h : xs.head? ≠ some '/') :
    Anchor.ofChars ('/' :: '/' :: xs) = .double := by
  cases xs with
  | nil => rfl
  | cons x xs =>
    have hx : x ≠ '/' := fun hx => h (congrArg some hx)
    simp [Anchor.ofChars, hx]

theorem Anchor.ofChars_here {xs : List Char} : Anchor.ofChars xs = .here ↔ xs.head? ≠ some '/' := by
  fun_cases Anchor.ofChars xs with
  | case4 =>
    rename_i hother
    refine iff_of_true rfl fun hx => ?_
    obtain ⟨r, rfl⟩ := List.head?_eq_some_iff.mp hx
    exact hother r rfl
  | _ => exact iff_of_false nofun (absurd rfl)

/-- A text is a path from the working directory when it does not begin with a separator. -/
theorem isAbsolute_ofText : (ofText t).isAbsolute = false ↔ t.toList.head? ≠ some '/' := by
  rw [← Anchor.ofChars_here, isAbsolute, decide_eq_false_iff_not, Decidable.not_not]
  rfl

/-- A text that continues a relative one after a separator begins where that one does. -/
theorem isAbsolute_continued (hne : a ≠ "") (ha : (ofText a).isAbsolute = false) :
    (ofText (a ++ "/" ++ b)).isAbsolute = false := by
  obtain ⟨x, xs, hx⟩ := List.exists_cons_of_ne_nil (mt String.toList_eq_nil_iff.mp hne)
  rw [isAbsolute_ofText] at ha ⊢
  simpa [hx] using ha

theorem parts_continued (a b : String) :
    (ofText (a ++ "/" ++ b)).parts = (ofText a).parts ++ (ofText b).parts := by
  have htext : (a ++ "/" ++ b).toList = a.toList ++ '/' :: b.toList := by simp
  rw [parts_ofText, htext, names_append, List.filter_append]
  rfl

/-! ## Normal form -/

/-- The text of an absolute path whose names say where to go is in normal form. -/
theorem normal_text {p : Path} (habs : p.isAbsolute = true) (h : ∀ n ∈ p.parts, IsPart n) :
    Normal p.text p.parts := by
  obtain ⟨anchor, parts⟩ := p
  cases anchor with
  | here => cases habs
  | root => exact ⟨.inl rfl, h⟩
  | double => exact ⟨.inr rfl, h⟩

/-- **Such a path is read back from its text.** -/
theorem ofText_text {p : Path} (habs : p.isAbsolute = true) (h : ∀ n ∈ p.parts, IsPart n) :
    ofText p.text = p := by
  have hhead := head?_intercalate_ne h
  have hsteps := steps_intercalate h
  have hfirst : ∀ xs, Path.names ('/' :: xs) = "" :: Path.names xs := fun xs => names_append [] xs
  obtain ⟨anchor, parts⟩ := p
  cases anchor with
  | here => cases habs
  | root =>
    have htext : (text ⟨.root, parts⟩).toList = '/' :: ("/".intercalate parts).toList := by
      simp [text, Anchor.text]
    rw [ofText, ofChars, htext, Anchor.ofChars_root hhead, hfirst]
    exact congrArg (Path.mk .root) hsteps
  | double =>
    have htext : (text ⟨.double, parts⟩).toList = '/' :: '/' :: ("/".intercalate parts).toList := by
      simp [text, Anchor.text]
    rw [ofText, ofChars, htext, Anchor.ofChars_double hhead, hfirst, hfirst]
    exact congrArg (Path.mk .double) hsteps

/-- A text in normal form is the text of its path. -/
theorem Normal.text_ofText (h : Normal t names) :
    (ofText t).text = t ∧ (ofText t).isAbsolute = true := by
  rcases h.written with rfl | rfl
  · have hpath : ofText (text ⟨.root, names⟩) = ⟨.root, names⟩ := ofText_text rfl h.parts
    exact ⟨congrArg text hpath, congrArg isAbsolute hpath⟩
  · have hpath : ofText (text ⟨.double, names⟩) = ⟨.double, names⟩ := ofText_text rfl h.parts
    exact ⟨congrArg text hpath, congrArg isAbsolute hpath⟩

/-! ## Resolution -/

theorem isAbsolute_resolve {cwd : Path} (hcwd : cwd.isAbsolute = true) (p : Path) :
    (resolve cwd p).isAbsolute = true := by
  rw [resolve, join]
  split
  · next hp => exact hp
  · exact hcwd

theorem parts_resolve (cwd p : Path) :
    (resolve cwd p).parts = (if p.isAbsolute then [] else cwd.parts) ++ p.parts := by
  rw [resolve, join]
  split <;> rfl

theorem resolve_of_absolute {p : Path} (hp : p.isAbsolute = true) (cwd : Path) :
    resolve cwd p = p := by
  rw [resolve, join, if_pos hp]

theorem resolve_of_relative {p : Path} (hp : p.isAbsolute = false) (cwd : Path) :
    resolve cwd p = ⟨cwd.anchor, cwd.parts ++ p.parts⟩ := by
  rw [resolve, join, hp]
  rfl

/-- The names of a text that is resolved are names of the text or of the working directory. -/
theorem isPart_of_mem_resolve {n : String} (h : n ∈ (resolve (ofText c) (ofText t)).parts) :
    IsPart n := by
  rw [parts_resolve, List.mem_append] at h
  rcases h with h | h
  · split at h
    · cases h
    · exact isPart_of_mem h
  · exact isPart_of_mem h

/-- **What resolving a text comes to.** It is an absolute path, in normal form: its names are those of
the text, after those of the working directory where the text does not begin at a root. Its own text,
and any other text in normal form, is resolved to itself against every working directory. A text that
begins at a root is resolved alike against all of them, and one that does not can be resolved in two
steps, wherever there is a separator after its first character. -/
theorem resolve_to_normal_form (hc : (ofText c).isAbsolute = true) :
    (∀ t, (resolve (ofText c) (ofText t)).isAbsolute = true ∧
      Normal (resolve (ofText c) (ofText t)).text
        ((if (ofText t).isAbsolute then [] else (ofText c).parts) ++
          (Path.names t.toList).filter fun n => n ≠ "" ∧ n ≠ ".")) ∧
    (∀ t d, resolve (ofText d) (ofText (resolve (ofText c) (ofText t)).text) =
      resolve (ofText c) (ofText t)) ∧
    (∀ t names d, Normal t names → (resolve (ofText d) (ofText t)).text = t) ∧
    (∀ t d, (ofText t).isAbsolute = true →
      resolve (ofText d) (ofText t) = resolve (ofText c) (ofText t)) ∧
    ∀ a b, a ≠ "" → (ofText a).isAbsolute = false → (ofText b).isAbsolute = false →
      resolve (resolve (ofText c) (ofText a)) (ofText b) =
        resolve (ofText c) (ofText (a ++ "/" ++ b)) := by
  have habs := fun t => isAbsolute_resolve hc (ofText t)
  have hparts := fun t n => isPart_of_mem_resolve (c := c) (t := t) (n := n)
  refine ⟨fun t => ⟨habs t, ?_⟩, fun t d => ?_, fun t names d h => ?_, fun t d ht => ?_,
    fun a b hne ha hb => ?_⟩
  · have hnames : ((Path.names t.toList).filter fun n => n ≠ "" ∧ n ≠ ".") = (ofText t).parts := by
      rw [parts_ofText]
      exact List.filter_congr fun n _ => by simp [isStep]
    rw [hnames, ← parts_resolve]
    exact normal_text (habs t) (hparts t)
  · rw [ofText_text (habs t) (hparts t), resolve_of_absolute (habs t)]
  · obtain ⟨htext, ht⟩ := h.text_ofText
    rw [resolve_of_absolute ht, htext]
  · rw [resolve_of_absolute ht, resolve_of_absolute ht]
  · have hab := isAbsolute_continued (b := b) hne ha
    rw [resolve_of_relative hb, resolve_of_relative ha, resolve_of_relative hab, parts_continued,
      List.append_assoc]

theorem resolve_at_double_separator :
    (ofText "//srv/./in").isAbsolute = true ∧
    (resolve (ofText "//srv/./in") (ofText "a//../b/")).text = "//srv/in/a/../b" ∧
    resolve (resolve (ofText "//srv/./in") (ofText "a//..")) (ofText "b/") =
      resolve (ofText "//srv/./in") (ofText ("a//.." ++ "/" ++ "b/")) := by
  have hc : (ofText "//srv/./in").isAbsolute = true := by decide
  obtain ⟨-, -, -, -, hsteps⟩ := resolve_to_normal_form hc
  exact ⟨hc, by decide, hsteps "a//.." "b/" (by decide) (by decide) (by decide)⟩

end Path

end Handout
