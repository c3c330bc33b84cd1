import Handout.Proofs.Blocks

/-!
# Texts one after the other

A variant of two texts one after the other is the two variants one after the other, wherever no removal
crosses from the first text into the second (`transform_append`). A removal crosses when a block is open
at the cut and closed below it. So it is enough that the first text closes every block that it opens, or
that the second one closes none.

Nothing is asked about the tags of the variant's own family, nor about a line that closes one block and
opens another: whatever state the scan of the first text is in, the question is only whether a line
below closes it (`keptBefore_of_closed`).

**What it does not establish.** The converse fails: a line that closes a block may open another one that
is never closed, and yet be removed with the block before it.
-/

namespace Handout

namespace LineScan

variable {v f : Variant} {l : List Char} {ls ms : List (List Char)}

/-- **Lines that leave no block of a family open**: below each line that opens one there is a line that
closes it. -/
def Closed (f : Variant) (ls : List (List Char)) : Prop :=
  ∀ l ms, l :: ms <:+ ls → opens f l = true → ∃ m ∈ ms, closes f m = true

theorem closed_nil : Closed f [] :=
  fun _ _ h => absurd (List.suffix_nil.mp h) (List.cons_ne_nil _ _)

theorem closed_cons :
    Closed f (l :: ls) ↔ (opens f l = true → ∃ m ∈ ls, closes f m = true) ∧ Closed f ls := by
  constructor
  · intro h
    exact ⟨h l ls List.suffix_rfl, fun k ms hs => h k ms (hs.trans (List.suffix_cons l ls))⟩
  · rintro ⟨hl, hls⟩ k ms hs
    rcases List.suffix_cons_iff.mp hs with heq | hs
    · obtain ⟨rfl, rfl⟩ := List.cons.inj heq
      exact hl
    · exact hls k ms hs

instance decidableClosed (f : Variant) : DecidablePred (Closed f)
  | [] => .isTrue closed_nil
  | _ :: ls =>
    haveI := decidableClosed f ls
    decidable_of_iff _ closed_cons.symm

/-! ## A scan of lines that leave no block open -/

/-- **Lines that leave no block open are scanned as if nothing followed them**, and so are any lines
that nothing closes below. That holds between removals, and within a block that the lines close. -/
theorem keptBefore_of_closed {closed : Bool} (h : Closed v.other ls ∨ closed = false) {b : Bool}
    (hb : b = true → ∃ m ∈ ls, closes v.other m = true) :
    keptBefore v closed b ls = keptFrom v b ls ∧ inBlockAfter v closed b ls = false := by
  induction ls generalizing b with
  | nil =>
    cases b with
    | false => exact ⟨rfl, rfl⟩
    | true =>
      obtain ⟨m, hm, -⟩ := hb rfl
      exact absurd hm List.not_mem_nil
  | cons l ls ih =>
    have hrest : Closed v.other ls ∨ closed = false := h.imp_left fun h => (closed_cons.mp h).2
    cases b with
    | true =>
      refine ih hrest fun hopen => ?_
      -- the line does not close the block, so that one below it does
      obtain ⟨m, hm, hc⟩ := hb rfl
      rcases List.mem_cons.mp hm with rfl | hm
      · rw [hc] at hopen
        cases hopen
      · exact ⟨m, hm, hc⟩
    | false =>
      -- what follows the lines does not decide whether the first of them starts a block
      have hstart : (opens v.other l && (ls.any (closes v.other) || closed)) = startsBlock v l ls := by
        rw [startsBlock]
        rcases h with h | rfl
        · cases ho : opens v.other l with
          | false => rfl
          | true => rw [List.any_eq_true.mpr ((closed_cons.mp h).1 ho), Bool.true_or]
        · rw [Bool.or_false]
      rw [keptBefore, inBlockAfter, keptFrom, hstart]
      cases hs : startsBlock v l ls with
      | true => exact ih hrest fun _ => List.any_eq_true.mp (Bool.and_eq_true_iff.mp hs).2
      | false =>
        obtain ⟨hkept, hafter⟩ := ih hrest fun h => absurd h Bool.false_ne_true
        cases goesAlone v l with
        | true => exact ⟨hkept, hafter⟩
        | false => exact ⟨congrArg (l :: ·) hkept, hafter⟩

/-- **A scan is local** where the first lines leave no block open, or none of the others closes one. -/
theorem kept_append (h : Closed v.other ls ∨ ∀ m ∈ ms, closes v.other m = false) :
    kept v (ls ++ ms) = kept v ls ++ kept v ms := by
  have hcut : Closed v.other ls ∨ ms.any (closes v.other) = false := by
    refine h.imp_right fun h => List.any_eq_false.mpr fun m hm => ?_
    rw [h m hm]
    exact Bool.false_ne_true
  obtain ⟨hkept, hafter⟩ := keptBefore_of_closed hcut fun h => absurd h Bool.false_ne_true
  rw [kept, keptFrom_append, hkept, hafter, kept, kept]

end LineScan

namespace Variant

open LineScan (Closed closes)

/-- **A variant of texts one after the other** is the variants one after the other. The first text is
empty or ends a line; and it closes every block of the other family that it opens, or the second text
closes none. -/
theorem transform_append (v : Variant) {a b : List Char} (ha : Line.Ended a)
    (h : Closed v.other (Line.ofText a) ∨ ∀ m ∈ Line.ofText b, closes v.other m = false) :
    v.transform (a ++ b) = v.transform a ++ v.transform b := by
  rw [transform_eq_kept, transform_eq_kept, transform_eq_kept, Line.ofText_append ha,
    LineScan.kept_append h, List.flatten_append]

/-- A block that is open at the cut and closed below it goes from both texts. -/
example : Variant.problem.transform ("a\n// START SOLUTION\n".toList ++ "// END SOLUTION\nb".toList) =
    "a\nb".toList := by decide

/-- A block between lines that carry tags of the other family too. -/
def entangledBlock : List Char :=
  "/* START PROBLEM // START SOLUTION\nx\nEND PROBLEM */ // END SOLUTION\n".toList

/-- A line that closes a block and opens another one, which is never closed. -/
def reopenedBlock : List Char :=
  "// END SOLUTION // START SOLUTION\ny".toList

/-- The first text closes its block, whatever the second one closes. The second one leaves a block open,
and what follows it closes none. -/
theorem transform_append_at_reopened_block :
    Variant.problem.transform (entangledBlock ++ reopenedBlock) =
        Variant.problem.transform entangledBlock ++ Variant.problem.transform reopenedBlock ∧
      Variant.problem.transform (reopenedBlock ++ ['\n'] ++ "/* PROBLEM FILE */\nz".toList) =
        Variant.problem.transform (reopenedBlock ++ ['\n']) ++
          Variant.problem.transform "/* PROBLEM FILE */\nz".toList :=
  ⟨transform_append .problem (by decide) (.inl (by decide)),
    transform_append .problem (by decide) (.inr (by decide))⟩

end Variant

end Handout
