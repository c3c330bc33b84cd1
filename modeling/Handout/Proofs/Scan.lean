import Handout.Plan
import Handout.Proofs.Removal

/-!
# The line scan is what the removal pattern does

`LineScan` says without patterns which lines a variant removes. Here the two are proved to agree on
every text: the matches of the removal pattern are the stretches of the scan (`spans_removal`), and
the text of a variant is the lines that the scan keeps (`transform_eq_kept`).

The pattern goes by characters and the scan by lines, so the two are compared where a line starts.
Two states of the scan stand against two states of the matcher: between removals nothing is left to
pass, and within a block the matcher has announced the match and still has to pass what is left of
it, which `LineScan.width` counts.

What a variant keeps is lines of the text in their order (`kept_sublist`), hence a page, so the
lines of a variant's text are the kept lines themselves (`ofText_transform`).
-/

namespace Handout

open Line (Page)

namespace LineScan

variable (v : Variant)

/-! ## The matches -/

/-- How many characters a block still takes from the given lines. -/
def width : List (List Char) → Nat
  | [] => 0
  | l :: ls => if closes v l then l.length else l.length + width ls

/-- A block takes everything but the lines below it. -/
theorem width_add_below (ls : List (List Char)) :
    width v ls + (below v ls).flatten.length = ls.flatten.length := by
  induction ls with
  | nil => rfl
  | cons l ls ih =>
    rw [width, below_cons, List.flatten_cons, List.length_append]
    split
    · rfl
    · rw [Nat.add_assoc, ih]

/-- **The matches of the removal pattern are the stretches of the scan**, from the start of a line
on, between removals and within a block. -/
theorem spansFrom_removal {ls : List (List Char)} (h : Page ls) :
    (∀ i, v.removal.spansFrom true i 0 ls.flatten = spansFrom v none i ls) ∧
    (∀ first i, ls.any (closes v.other) = true →
      (first, i + width v.other ls) ::
          v.removal.spansFrom true i (width v.other ls) ls.flatten =
        spansFrom v (some first) i ls) := by
  induction ls with
  | nil => exact ⟨fun _ => rfl, fun _ _ hc => absurd hc Bool.false_ne_true⟩
  | cons l ls ih =>
    obtain ⟨ihnone, ihsome⟩ := ih h.tail
    have hpos : 0 < l.length := List.length_pos_iff.mpr h.head_ne_nil
    refine ⟨fun i => ?_, fun first i hc => ?_⟩
    · have hr := v.rest?_removal h
      rw [List.flatten_cons, spansFrom]
      split
      · next hb =>
        have hw := width_add_below v.other ls
        have hl : (l ++ ls.flatten).length - (below v.other ls).flatten.length =
            l.length + width v.other ls := by
          rw [List.length_append]
          omega
        rw [if_pos hb] at hr
        rw [Pattern.spansFrom_match hr (by rw [List.length_append]; omega), hl,
          Pattern.spansFrom_line_skip _ h, ← Nat.add_assoc]
        exact ihsome i (i + l.length) (Bool.and_eq_true_iff.mp hb).2
      · next hb =>
        rw [if_neg hb] at hr
        split
        · next hg =>
          have hl : (l ++ ls.flatten).length - ls.flatten.length = l.length + 0 := by
            rw [List.length_append, Nat.add_sub_cancel, Nat.add_zero]
          rw [if_pos hg] at hr
          rw [Pattern.spansFrom_match hr (by rw [List.length_append]; omega), hl,
            Pattern.spansFrom_line_skip _ h, ihnone, Nat.add_zero]
        · next hg =>
          rw [if_neg hg] at hr
          rw [Pattern.spansFrom_line_pass v.anchored_removal h hr, ihnone]
    · rw [List.flatten_cons, spansFrom, width]
      split
      · next hl =>
        have hs := Pattern.spansFrom_line_skip v.removal h true i 0
        rw [Nat.add_zero] at hs
        rw [hs, ihnone]
      · next hl =>
        rw [List.any_cons, Bool.eq_false_iff.mpr hl, Bool.false_or] at hc
        rw [Pattern.spansFrom_line_skip _ h, ← Nat.add_assoc]
        exact ihsome first (i + l.length) hc

/-- **The matches of a text are the stretches of the scan.** -/
theorem spans_removal (text : List Char) : v.removal.spans text = spans v text := by
  have h := (spansFrom_removal v (Line.page_ofText text)).1 0
  rwa [Line.flatten_ofText] at h

/-! ## The lines that stay -/

/-- A stretch of the scan starts no earlier than the place, or where the block did. -/
theorem le_of_mem_spansFrom {ls : List (List Char)} {first : Option Nat} {i : Nat} {s : Nat × Nat}
    (h : s ∈ spansFrom v first i ls) (hi : ∀ k ∈ first, k ≤ i) : first.getD i ≤ s.1 := by
  induction ls generalizing first i with
  | nil => cases first <;> cases h
  | cons l ls ih =>
    -- below the line no block has begun yet, or one began at a known place
    have below_none : s ∈ spansFrom v none (i + l.length) ls → i ≤ s.1 := fun h =>
      Nat.le_of_add_right_le (ih h fun _ hk => absurd hk (Option.not_mem_none _))
    have below_some : ∀ k ≤ i, s ∈ spansFrom v (some k) (i + l.length) ls → k ≤ s.1 := by
      intro k hk h
      have hs := ih h fun m hm => Option.mem_some.mp hm ▸ Nat.le_add_right_of_le hk
      exact hs
    cases first with
    | none =>
      rw [spansFrom] at h
      split at h
      · exact below_some i (Nat.le_refl i) h
      · split at h
        · rcases List.mem_cons.mp h with rfl | h
          · exact Nat.le_refl i
          · exact below_none h
        · exact below_none h
    | some k =>
      have hk := hi k rfl
      rw [spansFrom] at h
      split at h
      · rcases List.mem_cons.mp h with rfl | h
        · exact Nat.le_refl k
        · exact Nat.le_trans hk (below_none h)
      · exact below_some k hk h

/-- A block that is closed below ends in a stretch from where it began. -/
theorem exists_mem_spansFrom {ls : List (List Char)} (hc : ls.any (closes v.other) = true)
    (first i : Nat) : ∃ e, i ≤ e ∧ (first, e) ∈ spansFrom v (some first) i ls := by
  induction ls generalizing i with
  | nil => exact absurd hc Bool.false_ne_true
  | cons l ls ih =>
    rw [spansFrom]
    split
    · exact ⟨i + l.length, Nat.le_add_right i _, List.mem_cons_self⟩
    · next hl =>
      rw [List.any_cons, Bool.eq_false_iff.mpr hl, Bool.false_or] at hc
      obtain ⟨e, he, hm⟩ := ih hc (i + l.length)
      exact ⟨e, Nat.le_of_add_right_le he, hm⟩

/-- **The lines that stay are the text without the stretches**, from a place on, between removals
and within a block. -/
theorem keptFrom_eq_cutFrom (ls : List (List Char)) :
    (∀ i, (keptFrom v false ls).flatten = Span.cutFrom (spansFrom v none i ls) i ls.flatten) ∧
    (∀ first i, first ≤ i → ls.any (closes v.other) = true →
      (keptFrom v true ls).flatten =
        Span.cutFrom (spansFrom v (some first) i ls) i ls.flatten) := by
  induction ls with
  | nil => exact ⟨fun _ => rfl, fun _ _ _ hc => absurd hc Bool.false_ne_true⟩
  | cons l ls ih =>
    obtain ⟨ihnone, ihsome⟩ := ih
    refine ⟨fun i => ?_, fun first i hi hc => ?_⟩
    · rw [keptFrom, spansFrom, List.flatten_cons]
      split
      · next hb =>
        have hb := (Bool.and_eq_true_iff.mp hb).2
        obtain ⟨e, he, hm⟩ := exists_mem_spansFrom v hb i (i + l.length)
        rw [Span.cutFrom_inside hm (Nat.le_refl i) he]
        exact ihsome i (i + l.length) (Nat.le_add_right i _) hb
      · split
        · rw [Span.cutFrom_inside List.mem_cons_self (Nat.le_refl i) (Nat.le_refl (i + l.length)),
            Span.cutFrom_past (Nat.le_refl (i + l.length))]
          exact ihnone (i + l.length)
        · have hs : ∀ s ∈ spansFrom v none (i + l.length) ls, i + l.length ≤ s.1 :=
            fun s hs => le_of_mem_spansFrom v hs fun _ hk => absurd hk (Option.not_mem_none _)
          rw [List.flatten_cons, Span.cutFrom_outside hs, ihnone (i + l.length)]
    · rw [keptFrom, spansFrom, List.flatten_cons]
      split
      · next hl =>
        rw [hl, Span.cutFrom_inside List.mem_cons_self hi (Nat.le_refl (i + l.length)),
          Span.cutFrom_past (Nat.le_refl (i + l.length))]
        exact ihnone (i + l.length)
      · next hl =>
        rw [List.any_cons, Bool.eq_false_iff.mpr hl, Bool.false_or] at hc
        obtain ⟨e, he, hm⟩ := exists_mem_spansFrom v hc first (i + l.length)
        rw [Bool.eq_false_iff.mpr hl, Span.cutFrom_inside hm hi he]
        exact ihsome first (i + l.length) (Nat.le_add_right_of_le hi) hc

/-- What a scan keeps is lines of the text in their order. -/
theorem keptFrom_sublist (b : Bool) (ls : List (List Char)) : (keptFrom v b ls).Sublist ls := by
  induction ls generalizing b with
  | nil => cases b <;> exact List.Sublist.refl []
  | cons l ls ih =>
    cases b with
    | true => exact (ih _).cons l
    | false =>
      rw [keptFrom]
      split
      · exact (ih _).cons l
      · split
        · exact (ih _).cons l
        · exact (ih _).cons_cons l

theorem kept_sublist (ls : List (List Char)) : (kept v ls).Sublist ls :=
  keptFrom_sublist v false ls

/-- **Lines that a scan cannot tell apart.** -/
structure Alike (l m : List Char) : Prop where
  opens : opens v.other l = opens v.other m
  closes : closes v.other l = closes v.other m
  alone : goesAlone v l = goesAlone v m

/-- **What is kept of lines that look alike** to the scan is the like of what is kept. -/
theorem keptFrom_map {f : List Char → List Char} {ls : List (List Char)}
    (h : ∀ l ∈ ls, Alike v (f l) l) (b : Bool) :
    keptFrom v b (ls.map f) = (keptFrom v b ls).map f := by
  induction ls generalizing b with
  | nil => cases b <;> rfl
  | cons l ls ih =>
    obtain ⟨hl, hrest⟩ := List.forall_mem_cons.mp h
    rw [List.map_cons]
    cases b with
    | true => rw [keptFrom, keptFrom, hl.closes, ih hrest]
    | false =>
      have hany : (ls.map f).any (closes v.other) = ls.any (closes v.other) := by
        rw [List.any_map, Bool.eq_iff_iff, List.any_eq_true, List.any_eq_true]
        refine exists_congr fun m => and_congr_right fun hm => ?_
        rw [Function.comp_apply, (hrest m hm).closes]
      rw [keptFrom, keptFrom, startsBlock, startsBlock, hl.opens, hany, hl.alone, ih hrest, ih hrest]
      split
      · rfl
      · split <;> rfl

end LineScan

namespace Variant

open LineScan (kept spans)

/-- **The text of a variant** is the lines that the scan keeps. -/
theorem transform_eq_kept (v : Variant) (text : List Char) :
    v.transform text = (kept v (Line.ofText text)).flatten := by
  have h := (LineScan.keptFrom_eq_cutFrom v (Line.ofText text)).1 0
  rw [Line.flatten_ofText] at h
  rw [transform, Pattern.erase_eq_cut, LineScan.spans_removal]
  exact h.symm

/-- **The lines of a variant's text** are the lines that the scan keeps. -/
theorem ofText_transform (v : Variant) (text : List Char) :
    Line.ofText (v.transform text) = kept v (Line.ofText text) := by
  rw [transform_eq_kept]
  exact Line.ofText_flatten ((Line.page_ofText text).sublist (LineScan.kept_sublist v _))

/-- **The removal pattern removes by lines.** Its matches in any text are the stretches that the
line scan finds, and the text of a variant is the text with exactly these stretches cut out. -/
theorem removal_is_line_scan (v : Variant) (text : List Char) :
    v.removal.spans text = spans v text ∧ v.transform text = Span.cut (spans v text) text := by
  refine ⟨LineScan.spans_removal v text, ?_⟩
  rw [transform, Pattern.erase_eq_cut, LineScan.spans_removal]

end Variant

end Handout
