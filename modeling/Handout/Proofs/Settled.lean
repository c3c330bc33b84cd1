import Handout.Proofs.Blocks

/-!
# Settled texts

Lines are **settled** for a variant when it has nothing to remove from them: no line goes alone, and
no line that opens a block of the other family stands above one that closes it. A scan leaves
settled lines as they are (`kept_of_settled`), and what a scan keeps is settled, whatever markers it
was given (`settled_kept`). Lines taken out of settled lines are settled again (`Settled.sublist`):
cutting can bring a start and an end together only if both were there, in that order, before.

A variant leaves a text as it is just when its lines are settled (`transform_eq_self_iff`). So a second
run of a variant does nothing, and a run of the other one in between cannot undo that.
In a row of runs only the first one, and the first one of the other variant, can change the text
(`outputs_settle`).
-/

namespace Handout

namespace LineScan

variable {v : Variant}

/-- **Lines from which a variant has nothing to remove.** -/
structure Settled (v : Variant) (ls : List (List Char)) : Prop where
  alone : ∀ l ∈ ls, goesAlone v l = false
  blocks : ls.Pairwise fun a b => opens v.other a = true → closes v.other b = false

/-- **Lines taken out of settled lines are settled.** -/
theorem Settled.sublist {ls ms : List (List Char)} (h : Settled v ls) (hs : ms.Sublist ls) :
    Settled v ms :=
  ⟨fun l hl => h.alone l (hs.subset hl), h.blocks.sublist hs⟩

/-- **Lines are settled** when none goes alone and, of the other family, no line opens a block down to
some line and none closes one below it. Ends without a start stand above then, and starts without an
end below. -/
theorem settled_append {above below : List (List Char)}
    (ha : ∀ l ∈ above ++ below, goesAlone v l = false)
    (ho : ∀ l ∈ above, opens v.other l = false) (hc : ∀ l ∈ below, closes v.other l = false) :
    Settled v (above ++ below) := by
  refine ⟨ha, List.pairwise_append.mpr ⟨?_, ?_, fun l hl m hm _ => hc m hm⟩⟩
  · refine List.pairwise_of_forall_mem_list fun l hl m _ h => ?_
    rw [ho l hl] at h
    cases h
  · exact List.pairwise_of_forall_mem_list fun _ _ m hm _ => hc m hm

/-- The first of settled lines starts no removal. -/
theorem Settled.startsBlock_head {l : List Char} {ls : List (List Char)} (h : Settled v (l :: ls)) :
    startsBlock v l ls = false := by
  have hb := (List.pairwise_cons.mp h.blocks).1
  rw [startsBlock]
  cases ho : opens v.other l with
  | false => rfl
  | true =>
    rw [Bool.true_and, List.any_eq_false]
    intro m hm hc
    rw [hb m hm ho] at hc
    cases hc

/-- **A scan leaves settled lines as they are.** -/
theorem kept_of_settled {ls : List (List Char)} (h : Settled v ls) : kept v ls = ls := by
  induction ls with
  | nil => rfl
  | cons l ls ih =>
    rw [kept, keptFrom, h.startsBlock_head, h.alone l List.mem_cons_self]
    exact congrArg (l :: ·) (ih (h.sublist (List.sublist_cons_self l ls)))

/-- A line that stays is settled above any of the lines that follow it. -/
theorem Settled.cons {l : List Char} {ls ms : List (List Char)} (hb : startsBlock v l ls = false)
    (ha : goesAlone v l = false) (hs : ms.Sublist ls) (h : Settled v ms) : Settled v (l :: ms) := by
  refine ⟨fun m hm => ?_, List.pairwise_cons.mpr ⟨fun m hm ho => ?_, h.blocks⟩⟩
  · rcases List.mem_cons.mp hm with rfl | hm
    · exact ha
    · exact h.alone m hm
  · rw [startsBlock, ho, Bool.true_and, List.any_eq_false] at hb
    exact Bool.eq_false_iff.mpr (hb m (hs.subset hm))

theorem settled_keptFrom (v : Variant) (b : Bool) (ls : List (List Char)) :
    Settled v (keptFrom v b ls) := by
  induction ls generalizing b with
  | nil => cases b <;> exact ⟨fun l hl => absurd hl List.not_mem_nil, List.Pairwise.nil⟩
  | cons l ls ih =>
    cases b with
    | true => exact ih _
    | false =>
      rw [keptFrom]
      split
      · exact ih true
      · next hb =>
        split
        · exact ih false
        · next ha =>
          exact (ih false).cons (Bool.eq_false_iff.mpr hb) (Bool.eq_false_iff.mpr ha)
            (keptFrom_sublist v false ls)

/-- **What a scan keeps is settled.** -/
theorem settled_kept (v : Variant) (ls : List (List Char)) : Settled v (kept v ls) :=
  settled_keptFrom v false ls

end LineScan

namespace Variant

open LineScan (Settled)

/-! ## Texts that a variant leaves as they are -/

/-- A variant leaves a text of settled lines as it is. -/
theorem transform_of_settled {v : Variant} {text : List Char} (h : Settled v (Line.ofText text)) :
    v.transform text = text := by
  rw [transform_eq_kept, LineScan.kept_of_settled h, Line.flatten_ofText]

/-- The lines of a variant's text are settled for it. -/
theorem settled_transform (v : Variant) (text : List Char) :
    Settled v (Line.ofText (v.transform text)) := by
  rw [ofText_transform]
  exact LineScan.settled_kept v _

/-- **A variant leaves a text as it is** just when its lines are settled for it. -/
theorem transform_eq_self_iff {v : Variant} {text : List Char} :
    v.transform text = text ↔ Settled v (Line.ofText text) := by
  refine ⟨fun h => ?_, transform_of_settled⟩
  have hsettled := settled_transform v text
  rwa [h] at hsettled

/-- What is settled for a variant stays so in the text of any variant. -/
theorem settled_transform_of_settled {v : Variant} {text : List Char}
    (h : Settled v (Line.ofText text)) (u : Variant) : Settled v (Line.ofText (u.transform text)) := by
  rw [ofText_transform]
  exact h.sublist (LineScan.kept_sublist u _)

/-- **A second run of a variant does nothing.** -/
theorem transform_idem (v : Variant) (text : List Char) :
    v.transform (v.transform text) = v.transform text :=
  transform_of_settled (settled_transform v text)

/-- **A text that went through both variants** stays as it is under either. -/
theorem transform_both (v u : Variant) (text : List Char) :
    u.transform (v.other.transform (v.transform text)) = v.other.transform (v.transform text) := by
  rcases eq_or_eq_other u v with rfl | rfl
  · exact transform_of_settled (settled_transform_of_settled (settled_transform u text) u.other)
  · exact transform_idem v.other (v.transform text)

/-! ## Rows of runs -/

/-- The text after each of a row of runs. -/
def outputs : List Variant → List Char → List (List Char)
  | [], _ => []
  | v :: vs, text => v.transform text :: outputs vs (v.transform text)

/-- A text that no run changes is the output of every run. -/
theorem outputs_of_fixed {text : List Char} (h : ∀ v : Variant, v.transform text = text)
    (vs : List Variant) : outputs vs text = List.replicate vs.length text := by
  induction vs with
  | nil => rfl
  | cons v vs ih => rw [outputs, h v, ih]; rfl

/-- The runs after a run of the same variant, up to the first one of the other variant and from it
on. -/
theorem outputs_after (v : Variant) (vs : List Variant) (text : List Char) :
    outputs vs (v.transform text) =
      List.replicate (vs.takeWhile (· = v)).length (v.transform text) ++
        List.replicate (vs.dropWhile (· = v)).length (v.other.transform (v.transform text)) := by
  induction vs with
  | nil => rfl
  | cons u vs ih =>
    rcases eq_or_eq_other u v with rfl | rfl
    · rw [outputs, transform_idem, ih, List.takeWhile_cons_of_pos (by simp),
        List.dropWhile_cons_of_pos (by simp)]
      rfl
    · rw [outputs, outputs_of_fixed (transform_both v · text), List.takeWhile_cons,
        List.dropWhile_cons, decide_eq_false (other_ne v)]
      rfl

/-- **A row of runs settles at once.** Up to the first run of another variant than the first one
every output is the text of the first variant, and from that run on every output is the text of the
other variant made from it. Each variant is idempotent, and what both have been applied to is a
fixed point of both. -/
theorem outputs_settle (v : Variant) (vs : List Variant) (text : List Char) :
    (outputs (v :: vs) text =
      List.replicate ((v :: vs).takeWhile (· = v)).length (v.transform text) ++
        List.replicate ((v :: vs).dropWhile (· = v)).length
          (v.other.transform (v.transform text))) ∧
    v.transform (v.transform text) = v.transform text ∧
    ∀ u : Variant,
      u.transform (v.other.transform (v.transform text)) = v.other.transform (v.transform text) := by
  refine ⟨?_, transform_idem v text, fun u => transform_both v u text⟩
  rw [outputs, outputs_after, List.takeWhile_cons_of_pos (by simp),
    List.dropWhile_cons_of_pos (by simp)]
  rfl

end Variant

end Handout
