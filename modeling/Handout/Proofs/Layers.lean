import Handout.Proofs.Documents

/-!
# Layers along key paths

`Shared.follow?` is the value that keys lead to, one inside the other. Of a value laid over another one
it tells everything at once: where the layer has a value there stands that value, laid over what the
base has in the same place (`follow?_override`), and past the point where the layer ends the base goes
on if the layer ends in a mapping, and nothing does if it does not (`follow?_override_beyond`).

So an override replaces just the leaves that it names, and nothing beside them is lost
(`merge_at_key_path`). The law is one induction along the path, and each step is `get?_mergeEntries`.

**What it does not establish.** Keys that are no texts lead nowhere here; they are merged all the same.
-/

namespace Handout

namespace Shared

variable {x y : Shared} {k : String} {p q : List String}

/-! ## Values at key paths -/

/-- **The value at a key path.** Nothing but a mapping has values at keys. -/
def follow? : Shared → List String → Option Shared
  | x, [] => some x
  | .map _ es, k :: p => (get? es (.text k)).bind fun x => x.follow? p
  | _, _ :: _ => none

theorem follow?_of_other (h : x.data.isMap = false) (k : String) (p : List String) :
    x.follow? (k :: p) = none := by
  cases x with
  | map mark es => cases h
  | plain d hd => rfl
  | list xs => rfl
  | pairs es => rfl

/-- Keys one after the other lead on from where the first ones do. -/
theorem follow?_append (x : Shared) (p q : List String) :
    x.follow? (p ++ q) = (x.follow? p).bind fun y => y.follow? q := by
  induction p generalizing x with
  | nil => rfl
  | cons k p ih =>
    cases x with
    | map mark es =>
      rw [List.cons_append, follow?, follow?, Option.bind_assoc]
      exact congrArg _ (funext ih)
    | plain d hd => rfl
    | list xs => rfl
    | pairs es => rfl

/-- What is at a key path of a tidy value is tidy. -/
theorem Tidy.of_follow? (h : Tidy x) (hy : x.follow? p = some y) : Tidy y := by
  induction p generalizing x with
  | nil => cases hy; exact h
  | cons k p ih =>
    cases x with
    | map mark es =>
      obtain ⟨v, hv, hy⟩ := Option.bind_eq_some_iff.mp hy
      exact ih (h.of_get? hv) hy
    | plain d hd => cases hy
    | list xs => cases hy
    | pairs es => cases hy

/-! ## A value laid over another one -/

theorem override_none (x : Shared) : x.override none = x := by
  cases x <;> rfl

/-- A mapping stays one, whatever it is laid over, and nothing else becomes one. -/
theorem isMap_override (x : Shared) (o : Option Shared) :
    (x.override o).data.isMap = x.data.isMap := by
  cases hx : x.data.isMap with
  | false => rw [override_of_plain hx, hx]
  | true =>
    obtain ⟨e, he⟩ : ∃ e, x.data = .map e := by
      cases hd : x.data with
      | map e => exact ⟨e, rfl⟩
      | _ => rw [hd] at hx; cases hx
    obtain ⟨mark, es, rfl, -⟩ := eq_map_of_data he
    match o with
    | none | some (.plain _ _) | some (.list _) | some (.pairs _) | some (.map _ _) => rfl

/-- What is no mapping, or nothing at all, has nothing at a key. -/
theorem bind_follow?_of_other {o : Option Shared} (h : ∀ mark es, o ≠ some (.map mark es))
    (k : String) (p : List String) : (o.bind fun b => b.follow? (k :: p)) = none := by
  match o with
  | none | some (.plain _ _) | some (.list _) | some (.pairs _) => rfl
  | some (.map mark es) => exact absurd rfl (h mark es)

/-- **Where a layer has a value**, that value is laid over what the base has in the same place. -/
theorem follow?_override (hx : Tidy x) (hy : x.follow? p = some y) (o : Option Shared) :
    (x.override o).follow? p = some (y.override (o.bind fun b => b.follow? p)) := by
  induction p generalizing x o with
  | nil =>
    cases hy
    cases o <;> rfl
  | cons k p ih =>
    cases x with
    | plain d hd => cases hy
    | list xs => cases hy
    | pairs es => cases hy
    | map mark layer =>
      obtain ⟨v, hv, hvy⟩ := Option.bind_eq_some_iff.mp hy
      by_cases ho : ∃ mark' base, o = some (.map mark' base)
      · obtain ⟨mark', base, rfl⟩ := ho
        rw [override, follow?, get?_mergeEntries hx.keys, hv]
        exact ih (hx.of_get? hv) hvy (get? base (.text k))
      · have hother : ∀ mark' base, o ≠ some (.map mark' base) :=
          fun mark' base h => ho ⟨mark', base, h⟩
        rw [override_of_other hother, hy, bind_follow?_of_other hother, override_none]

/-- Where a layer has nothing at a key, the base is let through by a mapping and by nothing else. -/
theorem follow?_override_missing (hx : Tidy x) (hk : x.follow? [k] = none) (o : Option Shared)
    (p : List String) :
    (x.override o).follow? (k :: p) =
      if x.data.isMap then o.bind fun b => b.follow? (k :: p) else none := by
  cases x with
  | plain d hd =>
    have hother : (plain d hd).data.isMap = false := hd
    rw [override_of_plain hother, follow?_of_other hother, hother]
    rfl
  | list xs => rfl
  | pairs es => rfl
  | map mark layer =>
    have hmap : (map mark layer).data.isMap = true := rfl
    rw [if_pos hmap]
    have hnone : get? layer (.text k) = none := by
      rw [follow?] at hk
      cases hv : get? layer (.text k) with
      | none => rfl
      | some v => rw [hv] at hk; cases hk
    by_cases ho : ∃ mark' base, o = some (.map mark' base)
    · obtain ⟨mark', base, rfl⟩ := ho
      rw [override, follow?, get?_mergeEntries hx.keys, hnone]
      rfl
    · have hother : ∀ mark' base, o ≠ some (.map mark' base) :=
        fun mark' base h => ho ⟨mark', base, h⟩
      rw [override_of_other hother, bind_follow?_of_other hother, follow?, hnone, Option.bind_none]

/-- **Past the point where a layer ends**, the base goes on if the layer ends in a mapping. -/
theorem follow?_override_beyond (hx : Tidy x) (hy : x.follow? q = some y)
    (hk : y.follow? [k] = none) (o : Option Shared) (p : List String) :
    (x.override o).follow? (q ++ k :: p) =
      if y.data.isMap then o.bind fun b => b.follow? (q ++ k :: p) else none := by
  have hbase : (o.bind fun b => b.follow? (q ++ k :: p)) =
      (o.bind fun b => b.follow? q).bind fun b => b.follow? (k :: p) := by
    rw [Option.bind_assoc]
    exact congrArg _ (funext fun b => follow?_append b q (k :: p))
  rw [follow?_append, follow?_override hx hy, hbase, Option.bind_some]
  exact follow?_override_missing (hx.of_follow? hy) hk _ p

/-! ## How far a value goes -/

/-- **How far a value goes along a key path**: to the longest start of the path at which it has
anything. -/
structure Reaches (x : Shared) (p q : List String) : Prop where
  start : q <+: p
  defined : (x.follow? q).isSome = true
  longest : ∀ m, m <+: p → (x.follow? m).isSome = true → m <+: q

/-- A value that has nothing at a key path ends at some key before. -/
theorem exists_end (h : x.follow? p = none) :
    ∃ q k r y, p = q ++ k :: r ∧ x.follow? q = some y ∧ y.follow? [k] = none := by
  induction p generalizing x with
  | nil => cases h
  | cons k p ih =>
    cases hk : x.follow? [k] with
    | none => exact ⟨[], k, p, x, rfl, rfl, hk⟩
    | some v =>
      have hp : v.follow? p = none := by
        rw [← List.singleton_append, follow?_append, hk] at h
        exact h
      obtain ⟨q, l, r, y, rfl, hy, hl⟩ := ih hp
      refine ⟨k :: q, l, r, y, rfl, ?_, hl⟩
      rw [← List.singleton_append, follow?_append, hk]
      exact hy

theorem reaches_of_end {r : List String} (hy : x.follow? q = some y) (hk : y.follow? [k] = none) :
    Reaches x (q ++ k :: r) q := by
  refine ⟨List.prefix_append q _, Option.isSome_of_eq_some hy, fun m hm hsome => ?_⟩
  rcases List.prefix_or_prefix_of_prefix hm (List.prefix_append q (k :: r)) with h | ⟨s, rfl⟩
  · exact h
  · -- a start that goes on past the end would have something at the key that is missing
    rw [List.prefix_append_right_inj] at hm
    cases s with
    | nil => simp
    | cons l s =>
      obtain ⟨rfl, -⟩ := List.cons_prefix_cons.mp hm
      rw [← List.singleton_append, follow?_append, hy, Option.bind_some, follow?_append, hk] at hsome
      cases hsome

theorem Reaches.unique {q' : List String} (h : Reaches x p q) (h' : Reaches x p q') : q = q' :=
  (h'.longest q h.start h.defined).eq_of_length_le (h.longest q' h'.start h'.defined).length_le

/-! ## The law of merging -/

/-- **An override replaces the leaves that it names, and nothing else is lost.** Two mappings can be
merged, and at every key path the result has: a value of the override that is no mapping, as it is; a
mapping where the override has one; and where the override has nothing, what the base has there if the
override goes as far as a mapping along the path, or else nothing. -/
theorem merge_at_key_path (mb mo : Option Mark) (base : Entries) {layer : Entries}
    (htidy : Tidy (.map mo layer)) :
    ∃ merged, (map mb base).merge? (.map mo layer) = .ok merged ∧ ∀ p,
      (∀ y, (map mo layer).follow? p = some y → y.data.isMap = false →
        merged.follow? p = some y) ∧
      (∀ y, (map mo layer).follow? p = some y → y.data.isMap = true →
        ∃ z, merged.follow? p = some z ∧ z.data.isMap = true) ∧
      ((map mo layer).follow? p = none → (∃ q, Reaches (.map mo layer) p q) ∧
        ∀ q y, Reaches (.map mo layer) p q → (map mo layer).follow? q = some y →
          merged.follow? p = if y.data.isMap then (map mb base).follow? p else none) := by
  refine ⟨(map mo layer).override (some (.map mb base)), rfl, fun p => ⟨?_, ?_, ?_⟩⟩
  · intro y hy hleaf
    rw [follow?_override htidy hy, override_of_plain hleaf]
  · intro y hy hmap
    exact ⟨_, follow?_override htidy hy _, (isMap_override y _).trans hmap⟩
  · intro hnone
    obtain ⟨q, k, r, z, rfl, hz, hk⟩ := exists_end hnone
    have hends := reaches_of_end (r := r) hz hk
    refine ⟨⟨q, hends⟩, fun q' y hreaches hy => ?_⟩
    obtain rfl := hreaches.unique hends
    obtain rfl := Option.some.inj (hy.symm.trans hz)
    exact follow?_override_beyond htidy hz hk _ r

/-- A base with a mapping of two values, a value, and a mapping of one. -/
def plainLayer : Entries := [
  (.text "a", .map none [(.text "x", .ofData (.int 1)), (.text "y", .ofData (.int 2))]),
  (.text "s", .ofData (.int 3)), (.text "t", .map none [(.text "u", .ofData (.int 4))])]

/-- An override with a mapping in place of a value, twice, and a value in place of a mapping. -/
def crossLayer : Entries := [
  (.text "a", .map none [(.text "x", .map none [(.text "z", .ofData (.int 5))])]),
  (.text "s", .map none [(.text "n", .ofData .null)]), (.text "t", .ofData (.int 6))]

theorem tidy_single (k : String) (h : Tidy x) : Tidy (.map none [(.text k, x)]) :=
  .map (List.pairwise_singleton _ k) fun _ he => List.mem_singleton.mp he ▸ h

theorem tidy_crossLayer : Tidy (.map none crossLayer) := by
  refine .map (by decide) fun e he => ?_
  simp only [crossLayer, List.mem_cons, List.not_mem_nil, or_false] at he
  rcases he with rfl | rfl | rfl
  · exact tidy_single "x" (tidy_single "z" (.other rfl))
  · exact tidy_single "n" (.other rfl)
  · exact .other rfl

/-- The value beside the one that is replaced stays; what stood below a value that comes in place of a
mapping is gone. -/
theorem merge_at_key_path_cross :
    ∃ merged, (map none plainLayer).merge? (.map none crossLayer) = .ok merged ∧
      merged.follow? ["a", "x", "z"] = some (.ofData (.int 5)) ∧
      merged.follow? ["a", "y"] = some (.ofData (.int 2)) ∧
      merged.follow? ["t", "u"] = none := by
  obtain ⟨merged, hmerged, hat⟩ := merge_at_key_path none none plainLayer tidy_crossLayer
  refine ⟨merged, hmerged, (hat _).1 _ rfl rfl, ?_, ?_⟩
  · exact ((hat _).2.2 rfl).2 ["a"] _ (reaches_of_end (r := []) rfl rfl) rfl
  · exact ((hat _).2.2 rfl).2 ["t"] _ (reaches_of_end (r := []) rfl rfl) rfl

end Shared

end Handout
