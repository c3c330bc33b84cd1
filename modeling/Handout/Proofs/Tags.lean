import Handout.Marker.LineScan
import Handout.Proofs.Matching

/-!
# Tags

A tag is known in two ways: as a pattern, and as a test on the characters of a line. The two agree.
`Tag.Stands` says without either when a tag stands on a line, and `isOn_iff` and `opens_iff` read
the tests by it. `Tag.afters` lists what follows the tags of a line, the last tag first, as the pattern
finds them (`ends_inline_pattern`).

Everything rests on two facts about the tags of the grammar, kept in `Tag.Proper`: no part of a tag
holds a line feed, so a tag never runs past its line (`after?_append`), and its second part does not
begin with a blank, so the blanks before it are all taken or none (`ends_blanks_literal`).
-/

namespace Handout

/-- What follows the words of a line: nothing, or a line feed and more text. -/
def Line.Break (tail : List Char) : Prop :=
  tail = [] ∨ ∃ below, tail = '\n' :: below

theorem Line.break_feed (below : List Char) : Line.Break ('\n' :: below) :=
  .inr ⟨below, rfl⟩

namespace Tag

open Line (Break)

/-- A tag that stays on its line, with a second part that blanks cannot run into. -/
structure Proper (t : Tag) : Prop where
  opening_ne : t.opening ≠ []
  opening_inline : '\n' ∉ t.opening
  closing_inline : '\n' ∉ t.closing
  closing_head : ∃ c r, t.closing = c :: r ∧ isBlank c = false

theorem proper_start (v : Variant) : (start v).Proper := by
  cases v <;> exact ⟨by decide, by decide, by decide, ⟨'S', _, rfl, rfl⟩⟩

theorem proper_stop (v : Variant) : (stop v).Proper := by
  cases v with
  | problem => exact ⟨by decide, by decide, by decide, ⟨'*', _, rfl, rfl⟩⟩
  | solution => exact ⟨by decide, by decide, by decide, ⟨'E', _, rfl, rfl⟩⟩

/-- The pattern of a tag. -/
def pattern (t : Tag) : Pattern :=
  .sequence [.literal t.opening, .greedy .blank, .literal t.closing]

theorem pattern_start (v : Variant) : (start v).pattern = v.startTag := by
  cases v <;> rfl

theorem pattern_stop (v : Variant) : (stop v).pattern = v.endTag := by
  cases v <;> rfl

/-! ## What follows a tag -/

/-- Dropping a start of a text is taking the text apart. -/
theorem drop?_eq_some {p text r : List Char} : drop? p text = some r ↔ text = p ++ r := by
  induction p generalizing text with
  | nil => exact Option.some_inj
  | cons c p ih =>
    cases text with
    | nil => simp only [drop?, reduceCtorEq, List.cons_append, List.nil_eq]
    | cons d text =>
      rw [drop?, List.cons_append, List.cons.injEq]
      split
      · next h => rw [ih, and_iff_right h.symm]
      · next h => exact iff_of_false (by simp) fun hd => h hd.1.symm

/-- A text begins with another one when that can be dropped. -/
theorem isPrefixOf_eq_isSome_drop? (p text : List Char) :
    p.isPrefixOf text = (drop? p text).isSome := by
  induction p generalizing text with
  | nil => cases text <;> rfl
  | cons c p ih =>
    cases text with
    | nil => rfl
    | cons d text =>
      rw [List.isPrefixOf_cons_cons, drop?, ih]
      by_cases h : c = d
      · rw [beq_iff_eq.mpr h, if_pos h, Bool.true_and]
      · rw [beq_false_of_ne h, if_neg h]
        rfl

/-- A start without a line feed does not run past the line. -/
theorem drop?_append {p : List Char} (hp : '\n' ∉ p) {tail : List Char} (ht : Break tail)
    (text : List Char) : drop? p (text ++ tail) = (drop? p text).map (· ++ tail) := by
  induction p generalizing text with
  | nil => rfl
  | cons c p ih =>
    cases text with
    | nil =>
      rcases ht with rfl | ⟨below, rfl⟩
      · rfl
      · show (if c = '\n' then drop? p below else none) = none
        exact if_neg (List.ne_of_not_mem_cons hp).symm
    | cons d text =>
      rw [List.cons_append, drop?, drop?]
      split
      · exact ih (List.not_mem_of_not_mem_cons hp) text
      · rfl

/-- Blanks do not run past the line. -/
theorem dropWhile_isBlank_append {tail : List Char} (ht : Break tail) (text : List Char) :
    (text ++ tail).dropWhile isBlank = text.dropWhile isBlank ++ tail := by
  induction text with
  | nil => rcases ht with rfl | ⟨below, rfl⟩ <;> rfl
  | cons c text ih =>
    rw [List.cons_append, List.dropWhile_cons, List.dropWhile_cons]
    split
    · exact ih
    · rfl

/-- **A tag does not run past its line.** -/
theorem after?_append {t : Tag} (h : t.Proper) {tail : List Char} (ht : Break tail)
    (text : List Char) : t.after? (text ++ tail) = (t.after? text).map (· ++ tail) := by
  rw [after?, after?, drop?_append h.opening_inline ht]
  cases drop? t.opening text with
  | none => rfl
  | some r =>
    show drop? t.closing ((r ++ tail).dropWhile isBlank) = _
    rw [dropWhile_isBlank_append ht, drop?_append h.closing_inline ht]
    rfl

/-- No tag stands where nothing follows on the line. -/
theorem after?_break {t : Tag} (h : t.Proper) {tail : List Char} (ht : Break tail) :
    t.after? tail = none := by
  have hn : t.after? [] = none := by
    rw [after?]
    cases ho : t.opening with
    | nil => exact absurd ho h.opening_ne
    | cons c p => rfl
  rw [← List.nil_append tail, after?_append h ht, hn]
  rfl

/-! ## Where a tag stands -/

/-- **A tag stands on a line** before the given text: its two parts, with blanks between. -/
def Stands (t : Tag) (line rest : List Char) : Prop :=
  ∃ before blanks : List Char, (∀ c ∈ blanks, isBlank c = true) ∧
    line = before ++ (t.opening ++ (blanks ++ (t.closing ++ rest)))

/-- What follows a tag, wherever it stands on a line, from the last place to the first. -/
def afters (t : Tag) : List Char → List (List Char)
  | [] => []
  | c :: r => t.afters r ++ (t.after? (c :: r)).toList

theorem after?_eq_some {t : Tag} (h : t.Proper) {text r : List Char} :
    t.after? text = some r ↔ ∃ blanks : List Char, (∀ c ∈ blanks, isBlank c = true) ∧
      text = t.opening ++ (blanks ++ (t.closing ++ r)) := by
  rw [after?, Option.bind_eq_some_iff]
  constructor
  · rintro ⟨s, hs, hr⟩
    refine ⟨s.takeWhile isBlank, List.all_eq_true.mp List.all_takeWhile, ?_⟩
    rw [← drop?_eq_some.mp hr, List.takeWhile_append_dropWhile, ← drop?_eq_some.mp hs]
  · rintro ⟨blanks, hb, rfl⟩
    refine ⟨_, drop?_eq_some.mpr rfl, drop?_eq_some.mpr ?_⟩
    obtain ⟨c, p, hc, hn⟩ := h.closing_head
    rw [List.dropWhile_append_of_pos hb, hc, List.cons_append,
      List.dropWhile_cons_of_neg (by simp [hn])]

/-- The texts after a tag are those before which it stands. -/
theorem mem_afters {t : Tag} (h : t.Proper) {line r : List Char} :
    r ∈ t.afters line ↔ t.Stands line r := by
  induction line with
  | nil =>
    refine iff_of_false List.not_mem_nil ?_
    rintro ⟨before, blanks, -, hl⟩
    have := (List.append_eq_nil_iff.mp hl.symm).2
    exact h.opening_ne (List.append_eq_nil_iff.mp this).1
  | cons c line ih =>
    rw [afters, List.mem_append, Option.mem_toList, ih, after?_eq_some h]
    constructor
    · rintro (⟨before, blanks, hb, rfl⟩ | ⟨blanks, hb, hl⟩)
      · exact ⟨c :: before, blanks, hb, rfl⟩
      · exact ⟨[], blanks, hb, hl⟩
    · rintro ⟨before, blanks, hb, hl⟩
      cases before with
      | nil => exact .inr ⟨blanks, hb, hl⟩
      | cons d before => exact .inl ⟨before, blanks, hb, (List.cons.inj hl).2⟩

/-- A tag after a tag stands on the line too. -/
theorem Stands.of_after {t u : Tag} {line r r' : List Char} (hr' : u.Stands r r')
    (hr : t.Stands line r) : u.Stands line r' := by
  obtain ⟨before, blanks, -, rfl⟩ := hr
  obtain ⟨before', blanks', hb', rfl⟩ := hr'
  refine ⟨before ++ (t.opening ++ (blanks ++ (t.closing ++ before'))), blanks', hb', ?_⟩
  simp only [List.append_assoc]

theorem isOn_eq (t : Tag) (line : List Char) : t.isOn line = (t.afters line).any fun _ => true := by
  induction line with
  | nil => rfl
  | cons c line ih =>
    rw [isOn, afters, List.any_append, ih, Bool.or_comm]
    cases t.after? (c :: line) <;> rfl

/-- **The test for a tag** says whether it stands on the line. -/
theorem isOn_iff {t : Tag} (h : t.Proper) {line : List Char} :
    t.isOn line = true ↔ ∃ r, t.Stands line r := by
  rw [isOn_eq, List.any_eq_true]
  exact exists_congr fun r => by rw [and_iff_left rfl, mem_afters h]

/-- A tag stands on a longer line where it stands on the line, unless it has the new character. -/
theorem stands_snoc {t : Tag} (h : t.Proper) {c : Char} (hc : c ∉ t.closing) {line r : List Char} :
    t.Stands (line ++ [c]) r ↔ ∃ r', r = r' ++ [c] ∧ t.Stands line r' := by
  constructor
  · rintro ⟨before, blanks, hb, hl⟩
    rcases List.eq_nil_or_concat r with rfl | ⟨r', x, rfl⟩
    · -- the tag would end the longer line
      refine absurd ?_ hc
      rcases List.eq_nil_or_concat t.closing with hnil | ⟨q, d, hclosing⟩
      · obtain ⟨d, q, hclosing, -⟩ := h.closing_head
        cases hnil.symm.trans hclosing
      · simp only [hclosing, List.append_nil, List.concat_eq_append, ← List.append_assoc] at hl
        obtain ⟨-, hd⟩ := List.append_inj' hl rfl
        cases hd
        rw [hclosing, List.concat_eq_append]
        exact List.mem_append_right q (List.mem_singleton_self c)
    · simp only [List.concat_eq_append, ← List.append_assoc] at hl
      obtain ⟨hline, hx⟩ := List.append_inj' hl rfl
      cases hx
      refine ⟨r', List.concat_eq_append, before, blanks, hb, ?_⟩
      rw [hline]
      simp only [List.append_assoc]
  · rintro ⟨r', rfl, before, blanks, hb, rfl⟩
    exact ⟨before, blanks, hb, by simp only [List.append_assoc]⟩

/-- **A character after a line** changes nothing about a tag that does not have it. -/
theorem isOn_snoc {t : Tag} (h : t.Proper) {c : Char} (hc : c ∉ t.closing) (line : List Char) :
    t.isOn (line ++ [c]) = t.isOn line := by
  rw [Bool.eq_iff_iff, isOn_iff h, isOn_iff h]
  constructor
  · rintro ⟨r, hr⟩
    obtain ⟨r', -, hr'⟩ := (stands_snoc h hc).mp hr
    exact ⟨r', hr'⟩
  · rintro ⟨r, hr⟩
    exact ⟨r ++ [c], (stands_snoc h hc).mpr ⟨r, rfl, hr⟩⟩

/-- A line feed after a line changes nothing about its tags. -/
theorem isOn_feed {t : Tag} (h : t.Proper) (line : List Char) :
    t.isOn (line ++ ['\n']) = t.isOn line :=
  isOn_snoc h h.closing_inline line

end Tag

namespace LineScan

theorem opens_eq (v : Variant) (line : List Char) :
    opens v line = ((Tag.start v).afters line).any fun r => !(Tag.stop v).isOn r := by
  induction line with
  | nil => rfl
  | cons c line ih =>
    rw [opens, Tag.afters, List.any_append, ih, Bool.or_comm]
    cases (Tag.start v).after? (c :: line) with
    | none => rfl
    | some r => rw [Option.toList_some, List.any_cons, List.any_nil, Bool.or_false]

/-- **A line opens a block** when a start tag stands on it that no end tag follows. -/
theorem opens_iff {v : Variant} {line : List Char} :
    opens v line = true ↔
      ∃ r, (Tag.start v).Stands line r ∧ ¬ ∃ r', (Tag.stop v).Stands r r' := by
  rw [opens_eq, List.any_eq_true]
  refine exists_congr fun r => ?_
  rw [Tag.mem_afters (Tag.proper_start v), ← Tag.isOn_iff (Tag.proper_stop v), Bool.not_eq_true',
    Bool.not_eq_true]

/-- **A character after a line** changes nothing about whether it opens a block, if no tag has it. -/
theorem opens_snoc {v : Variant} {c : Char} (hstart : c ∉ (Tag.start v).closing)
    (hstop : c ∉ (Tag.stop v).closing) (line : List Char) : opens v (line ++ [c]) = opens v line := by
  have hends : ∀ r, (∃ r', (Tag.stop v).Stands (r ++ [c]) r') ↔ ∃ r', (Tag.stop v).Stands r r' :=
    fun r => by
      rw [← Tag.isOn_iff (Tag.proper_stop v), ← Tag.isOn_iff (Tag.proper_stop v),
        Tag.isOn_snoc (Tag.proper_stop v) hstop]
  rw [Bool.eq_iff_iff, opens_iff, opens_iff]
  constructor
  · rintro ⟨r, hr, hn⟩
    obtain ⟨r', rfl, hr'⟩ := (Tag.stands_snoc (Tag.proper_start v) hstart).mp hr
    exact ⟨r', hr', mt (hends r').mpr hn⟩
  · rintro ⟨r, hr, hn⟩
    exact ⟨r ++ [c], (Tag.stands_snoc (Tag.proper_start v) hstart).mpr ⟨r, rfl, hr⟩,
      mt (hends r).mp hn⟩

theorem opens_feed (v : Variant) (line : List Char) : opens v (line ++ ['\n']) = opens v line :=
  opens_snoc (Tag.proper_start v).closing_inline (Tag.proper_stop v).closing_inline line

theorem closes_feed (v : Variant) (line : List Char) : closes v (line ++ ['\n']) = closes v line :=
  Tag.isOn_feed (Tag.proper_stop v) line

end LineScan

end Handout
