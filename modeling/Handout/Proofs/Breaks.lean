import Handout.Proofs.Scan

/-!
# Line breaks

A line of a text is broken by a line feed, which a carriage return may stand in front of, and one text
can have lines of both kinds. `Line.toFeeds` makes all breaks of a text line feeds. A variant keeps the
same lines whether this is done before or after, and plans the same for the file
(`breaks_do_not_matter`).

The scan looks at lines, and the breaks of a text are made line feeds line by line (`ofText_toFeeds`).
So everything is said by one fact about a line, that the scan cannot tell it from itself with the other
break (`alike_toFeeds`): no tag has a carriage return, and a file mark may have either break.

**What it does not establish.** A carriage return that no line feed follows is a character like any
other one. After a file mark it makes the line an ordinary one, until a break is taken from it:
with two carriage returns before a line feed the mark stays, and with one it goes.
-/

namespace Handout

namespace Line

/-- **A text with line feeds for its breaks**: without each carriage return that stands right before a
line feed. -/
def toFeeds : List Char → List Char
  | [] => []
  | c :: r => if c = '\r' ∧ r.head? = some '\n' then toFeeds r else c :: toFeeds r

/-- **A text in which every carriage return belongs to a break**: a line feed stands right after it. -/
def Paired : List Char → Prop
  | [] => True
  | c :: r => (c = '\r' → r.head? = some '\n') ∧ Paired r

instance decidablePaired : DecidablePred Paired
  | [] => isTrue trivial
  | _ :: r =>
    have := decidablePaired r
    inferInstanceAs (Decidable (_ ∧ Paired r))

/-- **A line with its break**: words, and after them nothing, a line feed, or a carriage return and a
line feed. -/
inductive Broken : List Char → Prop
  | bare {w : List Char} (hr : '\r' ∉ w) : Broken w
  | feed {w : List Char} (hr : '\r' ∉ w) : Broken (w ++ ['\n'])
  | both {w : List Char} (hr : '\r' ∉ w) : Broken (w ++ ['\r', '\n'])

/-! ## Breaks of lines -/

/-- The first line of a text begins as the text does. -/
theorem head?_of_ofText {text l : List Char} {ls : List (List Char)} (h : ofText text = l :: ls) :
    l.head? = text.head? := by
  have hpage := page_ofText text
  have hflat := flatten_ofText text
  rw [h] at hpage hflat
  obtain ⟨c, w, rfl⟩ := List.exists_cons_of_ne_nil hpage.head_ne_nil
  rw [← hflat]
  rfl

theorem toFeeds_append {w : List Char} (hr : '\r' ∉ w) (tail : List Char) :
    toFeeds (w ++ tail) = w ++ toFeeds tail := by
  induction w with
  | nil => rfl
  | cons c w ih =>
    have hc : c ≠ '\r' := (List.ne_of_not_mem_cons hr).symm
    rw [List.cons_append, toFeeds, if_neg fun h => hc h.1, ih (List.not_mem_of_not_mem_cons hr)]
    rfl

/-- **Breaks are made line feeds line by line.** -/
theorem ofText_toFeeds (text : List Char) : ofText (toFeeds text) = (ofText text).map toFeeds := by
  induction text with
  | nil => rfl
  | cons c r ih =>
    by_cases hn : c = '\n'
    · subst hn
      rw [toFeeds, if_neg fun h => absurd h.1 (by decide), ofText, if_pos rfl, ofText, if_pos rfl, ih]
      rfl
    · rw [ofText, if_neg hn, toFeeds]
      cases hl : ofText r with
      | nil =>
        obtain rfl : r = [] := by rw [← flatten_ofText r, hl]; rfl
        have hlast : ¬ (c = '\r' ∧ ([] : List Char).head? = some '\n') := by simp
        have hone : toFeeds [c] = [c] := if_neg hlast
        rw [if_neg hlast, consFirst, List.map_singleton, hone]
        exact ofText_last (List.cons_ne_nil c [])
          (List.not_mem_cons_of_ne_of_not_mem (Ne.symm hn) List.not_mem_nil)
      | cons l ls =>
        have hhead := head?_of_ofText hl
        rw [hl, List.map_cons] at ih
        rw [consFirst, List.map_cons, toFeeds, hhead]
        split
        · exact ih
        · rw [ofText, if_neg hn, ih]
          rfl

/-- **Each line of a paired text has its break.** -/
theorem broken_of_paired {text : List Char} (h : Paired text) : ∀ l ∈ ofText text, Broken l := by
  induction text with
  | nil => exact fun _ hl => absurd hl List.not_mem_nil
  | cons c r ih =>
    obtain ⟨hc, hr⟩ := h
    specialize ih hr
    rw [ofText]
    split
    · next hn =>
      subst hn
      exact List.forall_mem_cons.mpr ⟨.feed (w := []) List.not_mem_nil, ih⟩
    · by_cases hreturn : c = '\r'
      · -- the line feed after it is a line so far
        subst hreturn
        obtain ⟨r, rfl⟩ : ∃ r', r = '\n' :: r' := List.head?_eq_some_iff.mp (hc rfl)
        rw [ofText, if_pos rfl] at ih ⊢
        exact List.forall_mem_cons.mpr
          ⟨.both (w := []) List.not_mem_nil, (List.forall_mem_cons.mp ih).2⟩
      · have hcons : ∀ w : List Char, '\r' ∉ w → '\r' ∉ c :: w := fun w hw =>
          List.not_mem_cons_of_ne_of_not_mem (Ne.symm hreturn) hw
        cases hl : ofText r with
        | nil => exact List.forall_mem_singleton.mpr (.bare (hcons [] List.not_mem_nil))
        | cons l ls =>
          rw [hl] at ih
          obtain ⟨hfirst, hrest⟩ := List.forall_mem_cons.mp ih
          refine List.forall_mem_cons.mpr ⟨?_, hrest⟩
          cases hfirst with
          | bare hw => exact .bare (hcons _ hw)
          | feed hw => exact .feed (hcons _ hw)
          | both hw => exact .both (hcons _ hw)

/-- A text without breaks begins a text with line feeds where it begins the text. -/
theorem isPrefixOf_toFeeds {m : List Char} (hr : '\r' ∉ m) (hn : '\n' ∉ m) (text : List Char) :
    m.isPrefixOf (toFeeds text) = m.isPrefixOf text := by
  induction m generalizing text with
  | nil => rw [List.isPrefixOf_nil_left, List.isPrefixOf_nil_left]
  | cons d m ih =>
    have hdr : d ≠ '\r' := (List.ne_of_not_mem_cons hr).symm
    have hdn : d ≠ '\n' := (List.ne_of_not_mem_cons hn).symm
    cases text with
    | nil => rfl
    | cons c r =>
      rw [toFeeds]
      split
      · next h =>
        obtain ⟨rfl, h⟩ := h
        obtain ⟨r, rfl⟩ := List.head?_eq_some_iff.mp h
        rw [toFeeds, if_neg fun h => absurd h.1 (by decide), List.isPrefixOf_cons_cons,
          List.isPrefixOf_cons_cons, beq_false_of_ne hdr, beq_false_of_ne hdn]
        rfl
      · rw [List.isPrefixOf_cons_cons, List.isPrefixOf_cons_cons,
          ih (List.not_mem_of_not_mem_cons hr) (List.not_mem_of_not_mem_cons hn)]

end Line

namespace LineScan

open Line (Broken toFeeds toFeeds_append)

variable (v : Variant) {w l : List Char}

/-! ## A line with either break -/

/-- **A file mark may have either break.** -/
theorem isFileMark_both (hw : '\r' ∉ w) :
    isFileMark v (w ++ ['\r', '\n']) = isFileMark v (w ++ ['\n']) := by
  have hmark : '\r' ∉ v.fileMark.toList := by cases v <;> decide
  have hne : ∀ {a : List Char} (b : List Char), '\r' ∉ a → a ++ ['\n'] ≠ b ++ ['\r', '\n'] := by
    intro a b ha h
    rw [List.append_cons b '\r' ['\n'], List.append_left_inj] at h
    exact ha (h ▸ List.mem_append_right b (List.mem_singleton_self '\r'))
  rw [Bool.eq_iff_iff, isFileMark, isFileMark]
  simp only [Bool.or_eq_true, beq_iff_eq, List.append_left_inj]
  rw [or_iff_right (hne w hmark).symm, or_iff_left (hne _ hw)]

/-- **A scan cannot tell a line from the line with a line feed for its break.** -/
theorem alike_toFeeds (h : Broken l) : Alike v (toFeeds l) l := by
  cases h with
  | bare hr =>
    have hsame := toFeeds_append hr []
    rw [List.append_nil] at hsame
    rw [hsame, toFeeds, List.append_nil]
    exact ⟨rfl, rfl, rfl⟩
  | feed hr =>
    rw [toFeeds_append hr]
    exact ⟨rfl, rfl, rfl⟩
  | @both w hr =>
    rw [toFeeds_append hr, show toFeeds ['\r', '\n'] = ['\n'] by decide]
    have hstart : ∀ f, '\r' ∉ (Tag.start f).closing := fun f => by cases f <;> decide
    have hstop : ∀ f, '\r' ∉ (Tag.stop f).closing := fun f => by cases f <;> decide
    have hsplit : w ++ ['\r', '\n'] = w ++ ['\r'] ++ ['\n'] := List.append_cons w '\r' ['\n']
    have hon : ∀ {t : Tag}, t.Proper → '\r' ∉ t.closing →
        t.isOn (w ++ ['\n']) = t.isOn (w ++ ['\r', '\n']) := fun ht hc => by
      rw [hsplit, Tag.isOn_feed ht, Tag.isOn_feed ht, Tag.isOn_snoc ht hc]
    refine ⟨?_, hon (Tag.proper_stop v.other) (hstop v.other), ?_⟩
    · rw [hsplit, opens_feed, opens_feed, opens_snoc (hstart v.other) (hstop v.other)]
    · rw [goesAlone, goesAlone, hon (Tag.proper_start v) (hstart v),
        hon (Tag.proper_stop v) (hstop v), isFileMark_both v hr]

end LineScan

namespace Variant

open Line (Paired ofText toFeeds pick)

/-- **Line breaks do not matter** to what a variant keeps, where every carriage return belongs to one:
breaks can be made line feeds before or after, the plan for the file is of the same kind, and the lines
that are kept stand at the same places, each with the break that it has. -/
theorem breaks_do_not_matter (v : Variant) {text : List Char} (h : Paired text) :
    v.transform (toFeeds text) = toFeeds (v.transform text) ∧
    (Plan.of v (toFeeds text)).action = (Plan.of v text).action ∧
    ∃ places : Nat → Bool,
      ofText (v.transform text) = pick (fun k => places k = true) (ofText text) ∧
      ofText (v.transform (toFeeds text)) =
        pick (fun k => places k = true) (ofText (toFeeds text)) := by
  have hkept : ofText (v.transform (toFeeds text)) = (ofText (v.transform text)).map toFeeds := by
    rw [ofText_transform, ofText_transform, Line.ofText_toFeeds]
    exact LineScan.keptFrom_map v
      (fun l hl => LineScan.alike_toFeeds v (Line.broken_of_paired h l hl)) false
  refine ⟨?_, ?_, ?_⟩
  · rw [← Line.ofText_toFeeds] at hkept
    rw [← Line.flatten_ofText (v.transform (toFeeds text)), hkept, Line.flatten_ofText]
  · have hmark : v.deletionMark.toList.isPrefixOf (toFeeds text) =
        v.deletionMark.toList.isPrefixOf text :=
      Line.isPrefixOf_toFeeds (by cases v <;> decide) (by cases v <;> decide) text
    rw [Plan.of, Plan.of, hmark]
    split <;> rfl
  · obtain ⟨places, hplaces⟩ := Line.exists_pick (LineScan.kept_sublist v (ofText text))
    refine ⟨places, (ofText_transform v text).trans hplaces, ?_⟩
    rw [hkept, ofText_transform, hplaces, Line.pick_map, Line.ofText_toFeeds]

/-- Lines of both kinds, a block between a start and an end with different breaks, a file mark, and a
last line without a break. -/
def mixedBreaks : List Char :=
  "/* PROBLEM FILE */\r\na\n// START SOLUTION\r\n42\n// END SOLUTION\nb\r\nc".toList

theorem breaks_do_not_matter_mixed :
    Paired mixedBreaks ∧
    Variant.problem.transform (toFeeds mixedBreaks) =
      toFeeds (Variant.problem.transform mixedBreaks) ∧
    Variant.problem.transform mixedBreaks = "a\nb\r\nc".toList := by
  have hpaired : Paired mixedBreaks := by decide +kernel
  refine ⟨hpaired, (breaks_do_not_matter .problem hpaired).1, ?_⟩
  rw [transform_eq_kept]
  decide +kernel

end Variant

end Handout
