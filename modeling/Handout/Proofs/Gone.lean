import Handout.Proofs.Blocks

/-!
# Which lines go

What a variant removes, told of all the lines at once. The line scan says it from the first line to
the last, and where a block begins depends on where the one before it ended. Here a line goes for
what stands around it: because it lies in a block of the other family, which is any line with a start
tag through the first line below with an end tag, or because it goes alone (`LineScan.Goes`).

The two agree on texts in which no line holds a start tag and an end tag of the other family
(`transform_eq_pick`). Blocks may begin within each other there, but a start tag inside of a block has
the end of that block for its own. So within a block the scan has only to know whether it is at or
above the first line that closes one (`Enclosed`), and that is what the induction over the lines carries
beside the lines that go.

**What it does not establish.** A line with both tags may close one block and open another, or open
none; of texts with such lines only the scan gives an account.
-/

namespace Handout

namespace LineScan

/-! ## Blocks by their places -/

/-- **The first line that closes a block**: it has an end tag, and no line before it has. -/
structure ClosesAt (f : Variant) (ls : List (List Char)) (j : Nat) : Prop where
  stop : ls[j]?.any (closes f) = true
  first : ∀ m < j, ls[m]?.any (closes f) = false

/-- A place at or above the first line that closes a block. -/
def Enclosed (f : Variant) (ls : List (List Char)) (k : Nat) : Prop :=
  ∃ j, ClosesAt f ls j ∧ k ≤ j

/-- **A block of a family from one place through another**: a line with a start tag, and the first
line below it with an end tag. -/
structure BlockAt (f : Variant) (ls : List (List Char)) (i j : Nat) : Prop where
  below : i < j
  start : ls[i]?.any (Tag.start f).isOn = true
  stop : ls[j]?.any (closes f) = true
  between : ∀ m < j, i < m → ls[m]?.any (closes f) = false

/-- A place within a block, its first and last lines included. -/
def InBlock (f : Variant) (ls : List (List Char)) (k : Nat) : Prop :=
  ∃ i j, BlockAt f ls i j ∧ i ≤ k ∧ k ≤ j

/-- **A line goes** from a variant: it lies in a block of the other family, or it holds a tag of the
own family or marks a file of the variant. -/
def Goes (v : Variant) (ls : List (List Char)) (k : Nat) : Prop :=
  InBlock v.other ls k ∨ ls[k]?.any (goesAlone v) = true

variable {v f : Variant} {l : List Char} {ls : List (List Char)} {i j k : Nat}

theorem lt_length_of_any {p : List Char → Bool} (h : ls[j]?.any p = true) : j < ls.length := by
  refine Nat.lt_of_not_le fun hj => ?_
  rw [List.getElem?_eq_none hj] at h
  cases h

instance : Decidable (BlockAt f ls i j) :=
  decidable_of_iff (i < j ∧ ls[i]?.any (Tag.start f).isOn = true ∧ ls[j]?.any (closes f) = true ∧
      ∀ m < j, i < m → ls[m]?.any (closes f) = false)
    ⟨fun h => ⟨h.1, h.2.1, h.2.2.1, h.2.2.2⟩, fun h => ⟨h.below, h.start, h.stop, h.between⟩⟩

instance : Decidable (ClosesAt f ls j) :=
  decidable_of_iff (ls[j]?.any (closes f) = true ∧ ∀ m < j, ls[m]?.any (closes f) = false)
    ⟨fun h => ⟨h.1, h.2⟩, fun h => ⟨h.stop, h.first⟩⟩

instance : Decidable (Enclosed f ls k) :=
  decidable_of_iff (∃ j < ls.length, ClosesAt f ls j ∧ k ≤ j)
    ⟨fun ⟨j, _, h⟩ => ⟨j, h⟩, fun ⟨j, h, hk⟩ => ⟨j, lt_length_of_any h.stop, h, hk⟩⟩

instance : Decidable (InBlock f ls k) :=
  decidable_of_iff (∃ i ≤ k, ∃ j < ls.length, BlockAt f ls i j ∧ k ≤ j)
    ⟨fun ⟨i, hi, j, _, h, hj⟩ => ⟨i, j, h, hi, hj⟩,
      fun ⟨i, j, h, hi, hj⟩ => ⟨i, hi, j, lt_length_of_any h.stop, h, hj⟩⟩

instance : Decidable (Goes v ls k) :=
  inferInstanceAs (Decidable (_ ∨ _))

/-! ## Places below a first line -/

theorem closesAt_zero : ClosesAt f (l :: ls) 0 ↔ closes f l = true :=
  ⟨fun h => h.stop, fun h => ⟨h, fun _ hm => absurd hm (Nat.not_lt_zero _)⟩⟩

theorem closesAt_succ : ClosesAt f (l :: ls) (j + 1) ↔ closes f l = false ∧ ClosesAt f ls j := by
  constructor
  · intro h
    exact ⟨h.first 0 (Nat.succ_pos j), h.stop, fun m hm => h.first (m + 1) (Nat.succ_lt_succ hm)⟩
  · rintro ⟨hl, h⟩
    refine ⟨h.stop, fun m hm => ?_⟩
    cases m with
    | zero => exact hl
    | succ m => exact h.first m (Nat.lt_of_succ_lt_succ hm)

/-- The first of some lines is enclosed when one of them closes a block. -/
theorem enclosed_zero : Enclosed f ls 0 ↔ ls.any (closes f) = true := by
  induction ls with
  | nil =>
    refine iff_of_false ?_ Bool.false_ne_true
    rintro ⟨j, h, -⟩
    exact absurd (lt_length_of_any h.stop) (Nat.not_lt_zero j)
  | cons l ls ih =>
    rw [List.any_cons, Bool.or_eq_true, ← ih]
    constructor
    · rintro ⟨j, h, -⟩
      cases j with
      | zero => exact .inl (closesAt_zero.mp h)
      | succ j => exact .inr ⟨j, (closesAt_succ.mp h).2, Nat.zero_le j⟩
    · intro h
      by_cases hl : closes f l = true
      · exact ⟨0, closesAt_zero.mpr hl, Nat.le_refl 0⟩
      · obtain ⟨j, hj, -⟩ := h.resolve_left hl
        exact ⟨j + 1, closesAt_succ.mpr ⟨Bool.eq_false_iff.mpr hl, hj⟩, Nat.zero_le _⟩

/-- A place below the first line is enclosed when that line closes nothing and it is enclosed by the
lines below. -/
theorem enclosed_succ :
    Enclosed f (l :: ls) (k + 1) ↔ closes f l = false ∧ Enclosed f ls k := by
  constructor
  · rintro ⟨j, h, hk⟩
    cases j with
    | zero => exact absurd hk (Nat.not_succ_le_zero k)
    | succ j =>
      obtain ⟨hl, h⟩ := closesAt_succ.mp h
      exact ⟨hl, j, h, Nat.le_of_succ_le_succ hk⟩
  · rintro ⟨hl, j, h, hk⟩
    exact ⟨j + 1, closesAt_succ.mpr ⟨hl, h⟩, Nat.succ_le_succ hk⟩

/-- A block from the first line on. -/
theorem blockAt_zero :
    BlockAt f (l :: ls) 0 (j + 1) ↔ (Tag.start f).isOn l = true ∧ ClosesAt f ls j := by
  constructor
  · intro h
    exact ⟨h.start, h.stop, fun m hm => h.between (m + 1) (Nat.succ_lt_succ hm) (Nat.succ_pos m)⟩
  · rintro ⟨hl, h⟩
    refine ⟨Nat.succ_pos j, hl, h.stop, fun m hm hpos => ?_⟩
    cases m with
    | zero => exact absurd hpos (Nat.lt_irrefl 0)
    | succ m => exact h.first m (Nat.lt_of_succ_lt_succ hm)

/-- A block below the first line. -/
theorem blockAt_succ : BlockAt f (l :: ls) (i + 1) (j + 1) ↔ BlockAt f ls i j := by
  constructor
  · intro h
    exact ⟨Nat.lt_of_succ_lt_succ h.below, h.start, h.stop,
      fun m hm hi => h.between (m + 1) (Nat.succ_lt_succ hm) (Nat.succ_lt_succ hi)⟩
  · intro h
    refine ⟨Nat.succ_lt_succ h.below, h.start, h.stop, fun m hm hi => ?_⟩
    cases m with
    | zero => exact absurd hi (Nat.not_lt_zero _)
    | succ m => exact h.between m (Nat.lt_of_succ_lt_succ hm) (Nat.lt_of_succ_lt_succ hi)

/-- The first line lies in a block when it starts one that a line below closes. -/
theorem inBlock_zero :
    InBlock f (l :: ls) 0 ↔ (Tag.start f).isOn l = true ∧ ls.any (closes f) = true := by
  rw [← enclosed_zero]
  constructor
  · rintro ⟨i, j, h, hi, -⟩
    obtain rfl := Nat.le_zero.mp hi
    obtain ⟨j, rfl⟩ := Nat.exists_eq_add_one_of_ne_zero (Nat.ne_zero_of_lt h.below)
    obtain ⟨hl, h⟩ := blockAt_zero.mp h
    exact ⟨hl, j, h, Nat.zero_le j⟩
  · rintro ⟨hl, j, h, -⟩
    exact ⟨0, j + 1, blockAt_zero.mpr ⟨hl, h⟩, Nat.le_refl 0, Nat.zero_le _⟩

/-- A place below the first line lies in the block that this line starts, or in one below it. -/
theorem inBlock_succ :
    InBlock f (l :: ls) (k + 1) ↔
      (Tag.start f).isOn l = true ∧ Enclosed f ls k ∨ InBlock f ls k := by
  constructor
  · rintro ⟨i, j, h, hi, hj⟩
    obtain ⟨j, rfl⟩ := Nat.exists_eq_add_one_of_ne_zero (Nat.ne_zero_of_lt h.below)
    cases i with
    | zero =>
      obtain ⟨hl, h⟩ := blockAt_zero.mp h
      exact .inl ⟨hl, j, h, Nat.le_of_succ_le_succ hj⟩
    | succ i =>
      exact .inr ⟨i, j, blockAt_succ.mp h, Nat.le_of_succ_le_succ hi, Nat.le_of_succ_le_succ hj⟩
  · rintro (⟨hl, j, h, hj⟩ | ⟨i, j, h, hi, hj⟩)
    · exact ⟨0, j + 1, blockAt_zero.mpr ⟨hl, h⟩, Nat.zero_le _, Nat.succ_le_succ hj⟩
    · exact ⟨i + 1, j + 1, blockAt_succ.mpr h, Nat.succ_le_succ hi, Nat.succ_le_succ hj⟩

theorem goes_zero :
    Goes v (l :: ls) 0 ↔
      ((Tag.start v.other).isOn l = true ∧ ls.any (closes v.other) = true) ∨
        goesAlone v l = true :=
  or_congr_left inBlock_zero

theorem goes_succ :
    Goes v (l :: ls) (k + 1) ↔
      (Tag.start v.other).isOn l = true ∧ Enclosed v.other ls k ∨ Goes v ls k :=
  (or_congr_left inBlock_succ).trans or_assoc

/-! ## The scan and the places -/

open Line (pick pick_cons pick_congr)

/-- A line without an end tag opens a block when a start tag stands on it. -/
theorem opens_eq_isOn (h : closes f l = true → (Tag.start f).isOn l = false) :
    opens f l = (Tag.start f).isOn l := by
  cases hs : (Tag.start f).isOn l with
  | false =>
    rw [Bool.eq_false_iff]
    intro ho
    obtain ⟨r, hr, -⟩ := opens_iff.mp ho
    rw [(Tag.isOn_iff (Tag.proper_start f)).mpr ⟨r, hr⟩] at hs
    cases hs
  | true =>
    refine opens_of_isOn hs (Bool.eq_false_iff.mpr fun hc => ?_)
    rw [h hc] at hs
    cases hs

/-- **A scan keeps the lines that do not go.** Within a block, those at or above the first line that
closes one do not stay either. -/
theorem keptFrom_eq_pick
    (h : ∀ l ∈ ls, closes v.other l = true → (Tag.start v.other).isOn l = false) :
    keptFrom v false ls = pick (fun k => ¬ Goes v ls k) ls ∧
      (ls.any (closes v.other) = true →
        keptFrom v true ls = pick (fun k => ¬ (Enclosed v.other ls k ∨ Goes v ls k)) ls) := by
  induction ls with
  | nil => exact ⟨rfl, fun hc => absurd hc Bool.false_ne_true⟩
  | cons l ls ih =>
    obtain ⟨hl, hrest⟩ := List.forall_mem_cons.mp h
    obtain ⟨ihout, ihin⟩ := ih hrest
    refine ⟨?_, fun hc => ?_⟩
    · rw [keptFrom, startsBlock, opens_eq_isOn hl, pick_cons]
      split
      · next hb =>
        -- a block from this line on
        obtain ⟨hs, hc⟩ := Bool.and_eq_true_iff.mp hb
        have hgoes : Goes v (l :: ls) 0 := goes_zero.mpr (.inl ⟨hs, hc⟩)
        rw [if_neg (not_not_intro hgoes), ihin hc]
        refine pick_congr (fun k => not_congr ?_) ls
        rw [goes_succ, and_iff_right hs]
      · next hb =>
        have hout : ¬ ((Tag.start v.other).isOn l = true ∧ ls.any (closes v.other) = true) :=
          fun hs => hb (Bool.and_eq_true_iff.mpr hs)
        have hbelow : ∀ k, ¬ Goes v ls k ↔ ¬ Goes v (l :: ls) (k + 1) := fun k => by
          rw [goes_succ, or_iff_right]
          rintro ⟨hs, j, hj, -⟩
          exact hout ⟨hs, enclosed_zero.mp ⟨j, hj, Nat.zero_le j⟩⟩
        have hzero : Goes v (l :: ls) 0 ↔ goesAlone v l = true :=
          goes_zero.trans (or_iff_right hout)
        rw [ihout, pick_congr hbelow]
        by_cases ha : goesAlone v l = true
        · rw [if_pos ha, if_neg (not_not_intro (hzero.mpr ha))]
        · rw [if_neg ha, if_pos (mt hzero.mp ha)]
    · rw [keptFrom, pick_cons, if_neg (not_not_intro (.inl (enclosed_zero.mpr hc)))]
      cases hclose : closes v.other l with
      | true =>
        -- the block ends with this line, which starts none
        rw [Bool.not_true, ihout]
        refine pick_congr (fun k => not_congr ?_) ls
        rw [enclosed_succ, goes_succ, hl hclose, hclose]
        simp
      | false =>
        rw [List.any_cons, hclose, Bool.false_or] at hc
        rw [Bool.not_false, ihin hc]
        refine pick_congr (fun k => not_congr ?_) ls
        rw [enclosed_succ, goes_succ, and_iff_right hclose, ← or_assoc]
        exact or_congr_left (or_iff_left_of_imp And.right).symm

end LineScan

namespace Variant

open LineScan (closes Goes)

/-- **A variant keeps the lines that do not go**, as they are and in their order, where no line holds
both a start tag and an end tag of the other family. -/
theorem transform_eq_pick (v : Variant) {text : List Char}
    (h : ∀ l ∈ Line.ofText text,
      ¬ ((Tag.start v.other).isOn l = true ∧ (Tag.stop v.other).isOn l = true)) :
    Line.ofText (v.transform text) =
      Line.pick (fun k => ¬ Goes v (Line.ofText text) k) (Line.ofText text) := by
  rw [ofText_transform]
  refine (LineScan.keptFrom_eq_pick fun l hl hc => ?_).1
  exact Bool.eq_false_iff.mpr fun hs => h l hl ⟨hs, hc⟩

/-- A text with a block that starts within another one and shares its end, a tag of the other variant
within them, an end above all starts and a start below all ends. -/
def entangled : List Char :=
  ("// END SOLUTION\n// START SOLUTION\n/* START PROBLEM\n// START SOLUTION\n" ++
    "42\n// END SOLUTION\nx\nEND PROBLEM */\n// START SOLUTION\ny").toList

theorem transform_eq_pick_entangled :
    (∀ l ∈ Line.ofText entangled, ¬ ((Tag.start Variant.problem.other).isOn l = true ∧
      (Tag.stop Variant.problem.other).isOn l = true)) ∧
    Line.ofText (Variant.problem.transform entangled) =
      ["// END SOLUTION\n".toList, ['x', '\n'], "// START SOLUTION\n".toList, ['y']] := by
  have h : ∀ l ∈ Line.ofText entangled, ¬ ((Tag.start Variant.problem.other).isOn l = true ∧
      (Tag.stop Variant.problem.other).isOn l = true) := by decide +kernel
  refine ⟨h, ?_⟩
  rw [transform_eq_pick .problem h]
  decide +kernel

end Variant

end Handout
