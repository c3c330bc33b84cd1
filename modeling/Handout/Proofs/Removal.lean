import Handout.Proofs.Tags

/-!
# The removal pattern on a line

What the pattern of a variant matches at the start of a line, told without patterns. Each
alternative takes whole lines: a tag line and a file mark the line they are on (`rest?_tagLine`,
`rest?_fileMarkLine`), and a block everything through the first line below that closes it
(`rest?_block`). No choice that is given up on the way can change that, because every tag of a line
is followed by the same end of the line, and a lazy body meets line starts from the nearest one on.
`rest?_removal` puts the alternatives together, and `anchored_removal` says that a match starts
nowhere but at a line.
-/

namespace Handout

open Line (Break Page)
open Tag (drop? isBlank)

/-! ## Runs of a class -/

namespace CharClass

/-- A run along a line goes on over each of its characters. -/
theorem runs_inline_cons {c : Char} (hc : c ≠ '\n') (b : Bool) (r : List Char) :
    inline.runs b (c :: r) = ⟨b, c :: r⟩ :: inline.runs false r := by
  have hf : (c == '\n') = false := beq_false_of_ne hc
  rw [runs, holds, bne, hf]
  rfl

/-- A run of any characters goes on, and knows where lines start. -/
theorem runs_any_cons (b : Bool) (c : Char) (r : List Char) :
    any.runs b (c :: r) = ⟨b, c :: r⟩ :: any.runs (c == '\n') r :=
  rfl

/-- A run along a line stops at its end. -/
theorem runs_inline_break {tail : List Char} (ht : Break tail) (b : Bool) :
    inline.runs b tail = [⟨b, tail⟩] := by
  rcases ht with rfl | ⟨below, rfl⟩ <;> rfl

end CharClass

namespace Pattern

/-! ## Pieces of the grammar -/

/-- The ends of a fixed text. -/
theorem ends_literal {p : List Char} (hp : '\n' ∉ p) (s : Place) :
    (literal p).ends s = (drop? p s.rest).toList.map fun r => ⟨s.lineStart && p.isEmpty, r⟩ := by
  induction p generalizing s with
  | nil =>
    rw [literal, ends, List.isEmpty_nil, Bool.and_true]
    rfl
  | cons c p ih =>
    obtain ⟨b, text⟩ := s
    cases text with
    | nil => rfl
    | cons d text =>
      have hc : (c == '\n') = false := beq_false_of_ne (List.ne_of_not_mem_cons hp).symm
      rw [literal, ends, ends]
      by_cases h : c = d
      · subst h
        simp only [CharClass.holds, beq_self_eq_true, ↓reduceIte, List.flatMap_cons, List.flatMap_nil,
          List.append_nil, hc, ih (List.not_mem_of_not_mem_cons hp), Bool.false_and, List.isEmpty_cons,
          Bool.and_false, drop?]
      · have hd : (d == c) = false := beq_false_of_ne (Ne.symm h)
        simp only [CharClass.holds, hd, Bool.false_eq_true, ↓reduceIte, List.flatMap_nil, drop?, h,
          Option.toList_none, List.map_nil]

/-- A fixed text is dropped from the front. -/
theorem rest?_literal (p : List Char) (s : Place) : (literal p).rest? s = drop? p s.rest := by
  induction p generalizing s with
  | nil => rfl
  | cons c p ih =>
    obtain ⟨b, text⟩ := s
    rw [literal, rest?_seq, ends]
    cases text with
    | nil => rfl
    | cons d text =>
      by_cases h : c = d
      · subst h
        simp only [CharClass.holds, beq_self_eq_true, ↓reduceIte, List.findSome?_singleton, ih, drop?]
      · have hd : (d == c) = false := beq_false_of_ne (Ne.symm h)
        simp only [CharClass.holds, hd, Bool.false_eq_true, ↓reduceIte, List.findSome?_nil, drop?, h]

/-- **Blanks are all taken or none.** Giving some of them back puts a blank where the text would
have to begin. -/
theorem ends_blanks_literal {p : List Char} (hp : '\n' ∉ p)
    (hh : ∃ c r, p = c :: r ∧ isBlank c = false) (s : Place) :
    (seq (.greedy .blank) (.literal p)).ends s =
      (drop? p (s.rest.dropWhile isBlank)).toList.map fun r => ⟨false, r⟩ := by
  obtain ⟨c, q, hq, hn⟩ := hh
  have hl : ∀ s : Place, (literal p).ends s = (drop? p s.rest).toList.map fun r => ⟨false, r⟩ := by
    intro s
    rw [ends_literal hp, hq, List.isEmpty_cons, Bool.and_false]
  obtain ⟨b, text⟩ := s
  rw [ends, ends]
  induction text generalizing b with
  | nil => exact (List.append_nil _).trans (hl ⟨b, []⟩)
  | cons d text ih =>
    by_cases hd : isBlank d = true
    · have hk : CharClass.blank.runs b (d :: text) =
          ⟨b, d :: text⟩ :: CharClass.blank.runs (d == '\n') text := congrArg _ (if_pos hd)
      have hne : c ≠ d := fun h => by rw [h, hd] at hn; cases hn
      have hnone : drop? p (d :: text) = none := by rw [hq, drop?, if_neg hne]
      rw [hk, List.reverse_cons, List.flatMap_append, ih, List.dropWhile_cons_of_pos hd,
        List.flatMap_singleton, hl, hnone]
      exact List.append_nil _
    · have hk : CharClass.blank.runs b (d :: text) = [⟨b, d :: text⟩] := congrArg _ (if_neg hd)
      rw [hk, List.reverse_singleton, List.flatMap_singleton, hl, List.dropWhile_cons_of_neg hd]

/-- A pattern that must not lie ahead. -/
theorem rest?_notAhead (p q : Pattern) (s : Place) :
    (seq (.notAhead p) q).rest? s = if (p.ends s).isEmpty then q.rest? s else none := by
  rw [rest?_seq, ends]
  split
  · rw [List.findSome?_singleton]
  · rfl

/-- A line feed starts a line. -/
theorem rest?_feed (q : Pattern) (b : Bool) (below : List Char) :
    (seq (.literal ['\n']) q).rest? ⟨b, '\n' :: below⟩ = q.rest? ⟨true, below⟩ := by
  rw [rest?_seq]
  exact List.findSome?_singleton

theorem rest?_feed_ne {c : Char} (hc : c ≠ '\n') (q : Pattern) (b : Bool) (r : List Char) :
    (seq (.literal ['\n']) q).rest? ⟨b, c :: r⟩ = none := by
  have hn : (c == '\n') = false := beq_false_of_ne hc
  rw [rest?_seq]
  simp only [literal, ends, CharClass.holds, hn, Bool.false_eq_true, ↓reduceIte, List.flatMap_nil,
    List.findSome?_nil]

/-- A run along a line, then a line feed: the run must reach the end of the line. -/
theorem rest?_inline_feed {w : List Char} (hw : '\n' ∉ w) (q : Pattern) (b : Bool)
    (below : List Char) :
    (seq (.greedy .inline) (seq (.literal ['\n']) q)).rest? ⟨b, w ++ '\n' :: below⟩ =
      q.rest? ⟨true, below⟩ := by
  rw [rest?_seq, ends]
  induction w generalizing b with
  | nil =>
    rw [List.nil_append, CharClass.runs_inline_break (Line.break_feed below), List.reverse_singleton,
      List.findSome?_singleton, rest?_feed]
  | cons c w ih =>
    have hc := (List.ne_of_not_mem_cons hw).symm
    rw [List.cons_append, CharClass.runs_inline_cons hc, List.reverse_cons, List.findSome?_append,
      ih (List.not_mem_of_not_mem_cons hw), List.findSome?_singleton, rest?_feed_ne hc, Option.or_none]

/-- On the last line there is no line feed to reach. -/
theorem rest?_inline_feed_last {w : List Char} (hw : '\n' ∉ w) (q : Pattern) (b : Bool) :
    (seq (.greedy .inline) (seq (.literal ['\n']) q)).rest? ⟨b, w⟩ = none := by
  rw [rest?_seq, ends]
  induction w generalizing b with
  | nil => rfl
  | cons c w ih =>
    have hc := (List.ne_of_not_mem_cons hw).symm
    rw [CharClass.runs_inline_cons hc, List.reverse_cons, List.findSome?_append,
      ih (List.not_mem_of_not_mem_cons hw), List.findSome?_singleton, rest?_feed_ne hc, Option.or_none]

/-- A lazy run meets an anchored pattern at the start of a line only, the nearest line first. -/
theorem findSome?_runs_any {p : Pattern} (hp : p.Anchored) {w : List Char} (hw : '\n' ∉ w) (b : Bool)
    (below : List Char) :
    (CharClass.any.runs b (w ++ '\n' :: below)).findSome? p.rest? =
      (p.rest? ⟨b, w ++ '\n' :: below⟩).or ((CharClass.any.runs true below).findSome? p.rest?) := by
  induction w generalizing b with
  | nil =>
    rw [List.nil_append, CharClass.runs_any_cons, List.findSome?_cons]
    cases p.rest? ⟨b, '\n' :: below⟩ <;> rfl
  | cons c w ih =>
    have hc : (c == '\n') = false := beq_false_of_ne (List.ne_of_not_mem_cons hw).symm
    rw [List.cons_append, CharClass.runs_any_cons, hc, List.findSome?_cons,
      ih (List.not_mem_of_not_mem_cons hw), hp.rest?]
    cases p.rest? ⟨b, c :: (w ++ '\n' :: below)⟩ <;> rfl

/-- The last line has one start too. -/
theorem findSome?_runs_any_last {p : Pattern} (hp : p.Anchored) {w : List Char} (hw : '\n' ∉ w)
    (b : Bool) : (CharClass.any.runs b w).findSome? p.rest? = p.rest? ⟨b, w⟩ := by
  induction w generalizing b with
  | nil => exact List.findSome?_singleton
  | cons c w ih =>
    have hc : (c == '\n') = false := beq_false_of_ne (List.ne_of_not_mem_cons hw).symm
    rw [CharClass.runs_any_cons, hc, List.findSome?_cons, ih (List.not_mem_of_not_mem_cons hw),
      hp.rest?]
    cases p.rest? ⟨b, c :: w⟩ <;> rfl

end Pattern

/-! ## Tags as patterns -/

namespace Tag

/-- **The pattern of a tag** matches where the test finds the tag, and in one way only. -/
theorem ends_pattern {t : Tag} (h : t.Proper) (s : Place) :
    t.pattern.ends s = (t.after? s.rest).toList.map fun r => ⟨false, r⟩ := by
  have hb := Pattern.ends_blanks_literal h.closing_inline h.closing_head
  have ho : t.opening.isEmpty = false := List.isEmpty_eq_false_iff.mpr h.opening_ne
  rw [pattern, Pattern.sequence, Pattern.ends, Pattern.ends_literal h.opening_inline, ho,
    Bool.and_false, after?]
  cases drop? t.opening s.rest with
  | none => rfl
  | some r =>
    show [(⟨false, r⟩ : Place)].flatMap
      (Pattern.sequence [.greedy .blank, .literal t.closing]).ends = _
    rw [List.flatMap_singleton, Pattern.sequence, Pattern.sequence, Pattern.ends,
      Pattern.sequence, Pattern.ends_seq_empty]
    exact hb ⟨false, r⟩

/-- **The tags of a line**, the last one first, are the ends of a run along it and a tag. -/
theorem ends_inline_pattern {t : Tag} (h : t.Proper) {w tail : List Char} (hw : '\n' ∉ w)
    (ht : Break tail) (b : Bool) :
    (Pattern.seq (.greedy .inline) t.pattern).ends ⟨b, w ++ tail⟩ =
      (t.afters w).map fun r => ⟨false, r ++ tail⟩ := by
  rw [Pattern.ends, Pattern.ends]
  induction w generalizing b with
  | nil =>
    rw [List.nil_append, CharClass.runs_inline_break ht, List.reverse_singleton,
      List.flatMap_singleton, ends_pattern h, after?_break h ht]
    rfl
  | cons c w ih =>
    rw [List.cons_append, CharClass.runs_inline_cons (List.ne_of_not_mem_cons hw).symm,
      List.reverse_cons, List.flatMap_append, ih (List.not_mem_of_not_mem_cons hw),
      List.flatMap_singleton, ends_pattern h, ← List.cons_append, after?_append h ht, afters,
      List.map_append]
    cases t.after? (c :: w) <;> rfl

/-- What follows a tag on a line stays on the line. -/
theorem not_mem_of_mem_afters {t : Tag} (h : t.Proper) {w r : List Char} (hw : '\n' ∉ w)
    (hr : r ∈ t.afters w) : '\n' ∉ r := by
  obtain ⟨before, blanks, -, rfl⟩ := (mem_afters h).mp hr
  intro hn
  apply hw
  simp only [List.mem_append, hn, or_true]

end Tag

/-! ## Parts of the removal pattern -/

namespace Marker

/-- A removed line ends past its line feed, or with the text. -/
theorem rest?_lineEnd {w tail : List Char} (hw : '\n' ∉ w) (ht : Break tail) (b : Bool) :
    (Pattern.sequence [.greedy .inline, lineEnd]).rest? ⟨b, w ++ tail⟩ = some tail.tail := by
  rw [Pattern.sequence, Pattern.sequence, Pattern.rest?_seq, Pattern.ends]
  induction w generalizing b with
  | nil =>
    rw [List.nil_append, CharClass.runs_inline_break ht, List.reverse_singleton,
      List.findSome?_singleton]
    rcases ht with rfl | ⟨below, rfl⟩ <;> rfl
  | cons c w ih =>
    rw [List.cons_append, CharClass.runs_inline_cons (List.ne_of_not_mem_cons hw).symm,
      List.reverse_cons, List.findSome?_append, ih (List.not_mem_of_not_mem_cons hw)]
    rfl

/-- What a pattern does after a tag is asked of every tag of the line, the last one first. -/
theorem rest?_throughTag {t : Tag} (h : t.Proper) {w tail : List Char} (hw : '\n' ∉ w)
    (ht : Break tail) (q : Pattern) :
    (Pattern.seq (throughTag t.pattern) q).rest? ⟨true, w ++ tail⟩ =
      (t.afters w).findSome? fun r => q.rest? ⟨false, r ++ tail⟩ := by
  have he : (throughTag t.pattern).ends ⟨true, w ++ tail⟩ =
      (t.afters w).map fun r => ⟨false, r ++ tail⟩ := by
    show [(⟨true, w ++ tail⟩ : Place)].flatMap
      (Pattern.sequence [.greedy .inline, t.pattern]).ends = _
    rw [List.flatMap_singleton, Pattern.sequence, Pattern.ends, Pattern.sequence, Pattern.sequence,
      Pattern.ends_seq_empty]
    exact Tag.ends_inline_pattern h hw ht true
  rw [Pattern.rest?_seq, he, List.findSome?_map]
  rfl

/-- **A tag line** goes whole. -/
theorem rest?_tagLine {t : Tag} (h : t.Proper) {w tail : List Char} (hw : '\n' ∉ w)
    (ht : Break tail) :
    (tagLine t.pattern).rest? ⟨true, w ++ tail⟩ = if t.isOn w then some tail.tail else none := by
  rw [tagLine, Pattern.sequence, rest?_throughTag h hw ht, Tag.isOn_eq]
  refine Pattern.findSome?_ite fun r hr => ?_
  exact rest?_lineEnd (Tag.not_mem_of_mem_afters h hw hr) ht false

theorem anchored_tagLine (tag : Pattern) : (tagLine tag).Anchored :=
  (Pattern.anchored_lineStart.seq _).seq _

theorem anchored_block (v : Variant) : (block v).Anchored :=
  (Pattern.anchored_lineStart.seq _).seq _

theorem anchored_fileMarkLine (v : Variant) : (fileMarkLine v).Anchored :=
  Pattern.anchored_lineStart.seq _

end Marker

namespace LineScan

/-- The lines below the first one that closes a block. -/
def below (v : Variant) (lines : List (List Char)) : List (List Char) :=
  (lines.dropWhile fun l => !closes v l).tail

theorem below_cons (v : Variant) (l : List Char) (ls : List (List Char)) :
    below v (l :: ls) = if closes v l then ls else below v ls := by
  rw [below, List.dropWhile_cons]
  cases closes v l <;> rfl

end LineScan

namespace Marker

open LineScan (closes opens below)

/-- **The body of a block** ends with the first line that closes it. -/
theorem rest?_body (v : Variant) {ls : List (List Char)} (h : Page ls) :
    (Pattern.sequence [.lazy .any, tagLine v.endTag]).rest? ⟨true, ls.flatten⟩ =
      if ls.any (closes v) then some (below v ls).flatten else none := by
  have hs := Tag.proper_stop v
  have ha := anchored_tagLine v.endTag
  have hq : ∀ s, (Pattern.sequence [tagLine v.endTag]).rest? s = (tagLine v.endTag).rest? s := by
    intro s
    rw [Pattern.sequence, Pattern.sequence, Pattern.rest?, Pattern.end?, Pattern.ends_seq_empty]
    rfl
  rw [Pattern.sequence, Pattern.rest?_seq, Pattern.ends, funext hq]
  induction h with
  | blank =>
    have ht := rest?_tagLine hs List.not_mem_nil (.inl rfl)
    rw [List.append_nil, Tag.pattern_stop] at ht
    rw [List.flatten_nil, Pattern.findSome?_runs_any_last ha List.not_mem_nil, ht]
    rfl
  | @last w _ hw =>
    have ht := rest?_tagLine hs hw (.inl rfl)
    rw [List.append_nil, Tag.pattern_stop] at ht
    rw [List.flatten_singleton, Pattern.findSome?_runs_any_last ha hw, ht, List.any_cons,
      List.any_nil, Bool.or_false, LineScan.below_cons]
    show (if closes v w then _ else _) = _
    cases closes v w <;> rfl
  | @line w ls hw _ ih =>
    have ht := rest?_tagLine hs hw (Line.break_feed ls.flatten)
    rw [Tag.pattern_stop] at ht
    rw [List.flatten_cons, List.append_assoc, List.singleton_append,
      Pattern.findSome?_runs_any ha hw, ih, ht, List.any_cons, LineScan.below_cons,
      LineScan.closes_feed]
    show Option.or (if closes v w then _ else _) _ = _
    cases closes v w <;> rfl

/-- A start tag opens a block where no end tag follows it, and then the block is the same whichever
start tag of the line is chosen. -/
theorem rest?_afterStart (v : Variant) {w tail : List Char} (hw : '\n' ∉ w) (ht : Break tail)
    (q : Pattern) (x : Option (List Char))
    (hq : ∀ r : List Char, '\n' ∉ r → q.rest? ⟨false, r ++ tail⟩ = x) :
    (Pattern.seq (throughTag v.startTag)
        (.seq (.notAhead (.seq (.greedy .inline) v.endTag)) q)).rest? ⟨true, w ++ tail⟩ =
      if opens v w then x else none := by
  rw [← Tag.pattern_start, ← Tag.pattern_stop, rest?_throughTag (Tag.proper_start v) hw ht,
    LineScan.opens_eq]
  refine Pattern.findSome?_ite fun r hr => ?_
  have hn := Tag.not_mem_of_mem_afters (Tag.proper_start v) hw hr
  rw [Pattern.rest?_notAhead, Tag.ends_inline_pattern (Tag.proper_stop v) hn ht, hq r hn,
    Tag.isOn_eq]
  cases (Tag.stop v).afters r <;> rfl

/-- **A block** runs from a line that opens it through the first line below that closes it. -/
theorem rest?_block (v : Variant) {w : List Char} (hw : '\n' ∉ w) {ls : List (List Char)}
    (h : Page ls) :
    (block v).rest? ⟨true, w ++ '\n' :: ls.flatten⟩ =
      if opens v w && ls.any (closes v) then some (below v ls).flatten else none := by
  rw [block, Pattern.sequence, Pattern.sequence]
  rw [rest?_afterStart v hw (Line.break_feed _) _ _ fun r hr => by
    rw [Pattern.sequence, Pattern.sequence, Pattern.rest?_inline_feed hr, rest?_body v h]]
  cases opens v w <;> rfl

/-- The last line starts no block. -/
theorem rest?_block_last (v : Variant) {w : List Char} (hw : '\n' ∉ w) :
    (block v).rest? ⟨true, w⟩ = none := by
  have key := rest?_afterStart v hw (.inl rfl) (Pattern.sequence [.greedy .inline, .literal ['\n'],
    .lazy .any, tagLine v.endTag]) none fun r hr => by
      rw [List.append_nil, Pattern.sequence, Pattern.sequence, Pattern.rest?_inline_feed_last hr]
  rw [List.append_nil, ite_self] at key
  exact key

/-- A line break stands where only a carriage return, if anything, is left before the line feed. -/
theorem rest?_lineBreak (b : Bool) {r : List Char} (hr : '\n' ∉ r) (below : List Char) :
    lineBreak.rest? ⟨b, r ++ '\n' :: below⟩ =
      if r = [] ∨ r = ['\r'] then some below else none := by
  rw [lineBreak, Pattern.rest?_alt, Pattern.rest?_literal, Pattern.rest?_literal]
  cases r with
  | nil => rfl
  | cons c r =>
    have hc : drop? ['\n'] (c :: r ++ '\n' :: below) = none :=
      if_neg (List.ne_of_not_mem_cons hr)
    rw [hc, Option.or_none, List.cons_append, drop?]
    cases r with
    | nil => simp [drop?, eq_comm]
    | cons d r =>
      have hd : '\n' ≠ d := List.ne_of_not_mem_cons (List.not_mem_of_not_mem_cons hr)
      simp [drop?, hd]

/-- There is no line break on the last line. -/
theorem rest?_lineBreak_last (b : Bool) {r : List Char} (hr : '\n' ∉ r) :
    lineBreak.rest? ⟨b, r⟩ = none := by
  have hn : ∀ p : List Char, '\n' ∈ p → drop? p r = none := by
    intro p hp
    rw [Option.eq_none_iff_forall_ne_some]
    intro x hx
    rw [Tag.drop?_eq_some.mp hx] at hr
    exact hr (List.mem_append_left x hp)
  rw [lineBreak, Pattern.rest?_alt, Pattern.rest?_literal, Pattern.rest?_literal, hn _ (by decide),
    hn _ (by decide)]
  rfl

theorem not_mem_fileMark (v : Variant) : '\n' ∉ v.fileMark.toList := by
  cases v <;> decide

/-- The ends of a file mark and what stands before its line break. -/
theorem rest?_fileMarkLine_eq (v : Variant) {w tail : List Char} (ht : Break tail) :
    (fileMarkLine v).rest? ⟨true, w ++ tail⟩ =
      (drop? v.fileMark.toList w).bind fun r => lineBreak.rest? ⟨false, r ++ tail⟩ := by
  have hne : v.fileMark.toList.isEmpty = false := by cases v <;> decide
  show (Pattern.seq .lineStart (Pattern.sequence [.literal v.fileMark.toList, lineBreak])).rest? _ = _
  rw [Pattern.rest?_seq]
  show [(⟨true, w ++ tail⟩ : Place)].findSome? _ = _
  rw [List.findSome?_singleton, Pattern.sequence, Pattern.rest?_seq,
    Pattern.ends_literal (not_mem_fileMark v), hne, Bool.and_false,
    Tag.drop?_append (not_mem_fileMark v) ht, Pattern.sequence, Pattern.sequence]
  cases drop? v.fileMark.toList w with
  | none => rfl
  | some r =>
    show [(⟨false, r ++ tail⟩ : Place)].findSome? _ = _
    rw [List.findSome?_singleton, Pattern.rest?, Pattern.end?, Pattern.ends_seq_empty]
    rfl

/-- **A file mark** goes with its line break. -/
theorem rest?_fileMarkLine (v : Variant) {w : List Char} (hw : '\n' ∉ w) (below : List Char) :
    (fileMarkLine v).rest? ⟨true, w ++ '\n' :: below⟩ =
      if LineScan.isFileMark v (w ++ ['\n']) then some below else none := by
  have hm : LineScan.isFileMark v (w ++ ['\n']) = true ↔
      w = v.fileMark.toList ∨ w = v.fileMark.toList ++ ['\r'] := by
    have hr : w ++ ['\n'] = v.fileMark.toList ++ ['\r'] ++ ['\n'] ↔
        w = v.fileMark.toList ++ ['\r'] := List.append_left_inj ['\n']
    rw [List.append_assoc] at hr
    rw [LineScan.isFileMark, Bool.or_eq_true, beq_iff_eq, beq_iff_eq, List.append_left_inj]
    exact or_congr_right hr
  rw [rest?_fileMarkLine_eq v (Line.break_feed below)]
  cases hd : drop? v.fileMark.toList w with
  | none =>
    have hn : ¬ LineScan.isFileMark v (w ++ ['\n']) = true := by
      rw [hm]
      rintro (h | h)
      · rw [Tag.drop?_eq_some.mpr (h.trans (List.append_nil _).symm)] at hd
        cases hd
      · rw [Tag.drop?_eq_some.mpr h] at hd
        cases hd
    rw [if_neg hn]
    rfl
  | some r =>
    have hl := Tag.drop?_eq_some.mp hd
    have hr : '\n' ∉ r := fun h => hw (hl ▸ List.mem_append_right _ h)
    have hi : (r = [] ∨ r = ['\r']) ↔ LineScan.isFileMark v (w ++ ['\n']) = true := by
      rw [hm, hl, List.append_right_eq_self, List.append_cancel_left_eq]
    show lineBreak.rest? ⟨false, r ++ '\n' :: below⟩ = _
    rw [rest?_lineBreak false hr]
    simp only [hi]

/-- A file mark without a line break stays. -/
theorem rest?_fileMarkLine_last (v : Variant) {w : List Char} (hw : '\n' ∉ w) :
    (fileMarkLine v).rest? ⟨true, w⟩ = none := by
  have key := rest?_fileMarkLine_eq v (w := w) (.inl rfl)
  rw [List.append_nil] at key
  rw [key]
  cases hd : drop? v.fileMark.toList w with
  | none => rfl
  | some r =>
    show lineBreak.rest? ⟨false, r ++ []⟩ = none
    rw [List.append_nil]
    exact rest?_lineBreak_last false fun h =>
      hw (Tag.drop?_eq_some.mp hd ▸ List.mem_append_right _ h)

end Marker

/-! ## The whole pattern -/

namespace Variant

open LineScan (startsBlock goesAlone isFileMark)

/-- **A match starts at a line.** -/
theorem anchored_removal (v : Variant) : v.removal.Anchored :=
  (Marker.anchored_block _).alt <| (Marker.anchored_tagLine _).alt <|
    (Marker.anchored_tagLine _).alt (Marker.anchored_fileMarkLine v)

/-- A line without a line feed is no file mark. -/
theorem isFileMark_last (v : Variant) {w : List Char} (hw : '\n' ∉ w) : isFileMark v w = false := by
  rw [isFileMark, Bool.or_eq_false_iff, beq_eq_false_iff_ne, beq_eq_false_iff_ne]
  constructor <;> rintro rfl <;> exact hw (List.mem_append_right _ (by decide))

/-- **What the removal pattern matches at a line**: a block, or the line alone, or nothing. -/
theorem rest?_removal (v : Variant) {l : List Char} {ls : List (List Char)} (h : Page (l :: ls)) :
    v.removal.rest? ⟨true, l ++ ls.flatten⟩ =
      if startsBlock v l ls then some (LineScan.below v.other ls).flatten
      else if goesAlone v l then some ls.flatten else none := by
  rw [removal, Pattern.rest?_alt, Pattern.rest?_alt, Pattern.rest?_alt, startsBlock, goesAlone]
  cases h with
  | last _ hw =>
    have hstart := Marker.rest?_tagLine (Tag.proper_start v) hw (.inl rfl)
    have hstop := Marker.rest?_tagLine (Tag.proper_stop v) hw (.inl rfl)
    rw [List.append_nil] at hstart hstop
    rw [List.flatten_nil, List.append_nil, Marker.rest?_block_last v.other hw, ← Tag.pattern_start,
      ← Tag.pattern_stop, hstart, hstop, Marker.rest?_fileMarkLine_last v hw, isFileMark_last v hw,
      List.any_nil, Bool.and_false]
    cases (Tag.start v).isOn _ <;> cases (Tag.stop v).isOn _ <;> rfl
  | line hw h =>
    rw [List.append_assoc, List.singleton_append, Marker.rest?_block v.other hw h,
      ← Tag.pattern_start, ← Tag.pattern_stop,
      Marker.rest?_tagLine (Tag.proper_start v) hw (Line.break_feed _),
      Marker.rest?_tagLine (Tag.proper_stop v) hw (Line.break_feed _),
      Marker.rest?_fileMarkLine v hw, LineScan.opens_feed, Tag.isOn_feed (Tag.proper_start v),
      Tag.isOn_feed (Tag.proper_stop v), List.tail_cons]
    cases (LineScan.opens v.other _ && ls.any (LineScan.closes v.other)) <;>
      cases (Tag.start v).isOn _ <;> cases (Tag.stop v).isOn _ <;> cases isFileMark v _ <;> rfl

end Variant

end Handout
