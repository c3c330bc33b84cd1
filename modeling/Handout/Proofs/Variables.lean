import Handout.Proofs.Layers
import Handout.Proofs.Shapes

/-!
# Variables along key paths

What an environment makes of a configuration is told key path by key path. Of the variables only those
matter whose own key path begins the given one or begins with it, and of these only the last: it leaves
its value, or nothing, or a mapping (`Environment.Leaves`). Where there is none, what was there stays
(`overrideAll_at_key_path`). So variables whose key paths are apart can come in any order.

The argument has two parts. A value put at a key path is found there, hides what was beneath, and
makes mappings above; anywhere else nothing changes (`leaves_putAt`, `follow?_putAt_of_apart`). And the
mapping that takes the value stands in one place, so that the value shows in one place too
(`write_eq_putAt`).

**What it does not establish.** Where a mapping of the configuration stands in two places, the value
shows in both, and the law fails: `order_matters_to_alias`.
-/

namespace Handout

/-- Key paths one of which begins the other. -/
def Comparable (q p : List String) : Prop :=
  q <+: p ∨ p <+: q

theorem Comparable.symm {p q : List String} (h : Comparable q p) : Comparable p q :=
  Or.symm h

instance (q p : List String) : Decidable (Comparable q p) :=
  inferInstanceAs (Decidable (_ ∨ _))

theorem comparable_cons {k l : String} {p q : List String} :
    Comparable (k :: q) (l :: p) ↔ k = l ∧ Comparable q p := by
  simp only [Comparable, List.cons_prefix_cons, @eq_comm _ l, and_or_left]

/-! ## Values of variables -/

namespace Environment

/-- **A text that stands for itself** where a variable gives it: it is not `true` or `false` in any case
of letters, and no numeral, of a fraction where it has a point and of an integer where it has none. -/
def Verbatim (value : String) : Prop :=
  String.ofList (LowerCase.fold value.toList) ≠ "true" ∧
  String.ofList (LowerCase.fold value.toList) ≠ "false" ∧
  ('.' ∈ value.toList → Numeral.fraction? value.toList = none) ∧
  ('.' ∉ value.toList → (Numeral.integer value.toList).toOption = none)

instance (value : String) : Decidable (Verbatim value) :=
  inferInstanceAs (Decidable (_ ∧ _))

theorem coerce_of_verbatim {value : String} (h : Verbatim value) : coerce value = .text value := by
  obtain ⟨htrue, hfalse, hfraction, hinteger⟩ := h
  simp only [coerce, if_neg htrue, if_neg hfalse, List.contains_iff_mem]
  split
  next hpoint => rw [hfraction hpoint]
  next hpoint =>
    cases hn : Numeral.integer value.toList with
    | ok n =>
      have hnone := hinteger hpoint
      rw [hn] at hnone
      cases hnone
    | error e => rfl

/-- A text that does not stand for itself is read as a switch or a number. -/
theorem coerce_of_not_verbatim {value : String} (h : ¬ Verbatim value) :
    (∃ b, coerce value = .bool b) ∨ (∃ n, coerce value = .int n) ∨ ∃ x, coerce value = .float x := by
  simp only [coerce, List.contains_iff_mem]
  split
  · exact .inl ⟨_, rfl⟩
  next htrue =>
    split
    · exact .inl ⟨_, rfl⟩
    next hfalse =>
      split
      next hpoint =>
        split
        next x _ => exact .inr (.inr ⟨x, rfl⟩)
        next hnone =>
          exact absurd ⟨htrue, hfalse, fun _ => hnone, fun hp => absurd hpoint hp⟩ h
      next hpoint =>
        split
        next n _ => exact .inr (.inl ⟨n, rfl⟩)
        next e he =>
          exact absurd ⟨htrue, hfalse, fun hp => absurd hp hpoint, fun _ => by rw [he]; rfl⟩ h

theorem isMap_coerce (value : String) : (coerce value).isMap = false := by
  by_cases h : Verbatim value
  · rw [coerce_of_verbatim h]
    rfl
  · rcases coerce_of_not_verbatim h with ⟨b, hb⟩ | ⟨n, hn⟩ | ⟨x, hx⟩
    · rw [hb]; rfl
    · rw [hn]; rfl
    · rw [hx]; rfl

theorem splitParts_ne_nil (part text : List Char) : splitParts part text ≠ [] := by
  fun_induction splitParts part text with
  | case1 => exact List.cons_ne_nil _ _
  | case2 => exact List.cons_ne_nil _ _
  | case3 _ _ _ _ ih => exact ih

/-- A key path has a first key. -/
theorem ne_nil_of_keyPath? {name : String} {q : List String} (h : keyPath? name = some q) :
    q ≠ [] := by
  rw [keyPath?] at h
  split at h
  · cases h
  · obtain ⟨r, -, rfl⟩ := Option.map_eq_some_iff.mp h
    exact mt List.map_eq_nil_iff.mp (splitParts_ne_nil [] _)

/-- **What a value put at a key path leaves at another one** that has to do with it: itself, nothing
beneath it, and a mapping above it. -/
inductive Leaves (q : List String) (d : Data) : List String → Option Shared → Prop
  | here : Leaves q d q (some (.ofData d))
  | beneath {p : List String} (h : q <+: p) (hne : q ≠ p) : Leaves q d p none
  | above {p : List String} {x : Shared} (h : p <+: q) (hne : p ≠ q) (hx : x.data.isMap = true) :
      Leaves q d p (some x)

end Environment

namespace Shared

open Environment (Leaves)

variable {es : Entries} {mark : Option Mark} {m : Mark} {k : String} {p q rest : List String}
  {v x y : Shared} {d : Data}

/-! ## A value put at a key path -/

/-- Beyond its first key, a key path goes on in the mapping that is there, or in a new one. -/
theorem follow?_sectionAt (es : Entries) (k l : String) (r : List String) :
    (map mark es).follow? (k :: l :: r) =
      (map (sectionAt es k).1 (sectionAt es k).2).follow? (l :: r) := by
  rw [follow?, sectionAt]
  rcases get? es (.text k) with _ | x
  · rfl
  · cases x <;> rfl

theorem follow?_put (es : Entries) (k l : String) (p : List String) (v : Shared) :
    (map mark (put es (.text k) v)).follow? (l :: p) =
      if l = k then v.follow? p else (map mark es).follow? (l :: p) := by
  rw [follow?, get?_put_text]
  split <;> rfl

/-- A value put at a key path is what goes on from there. -/
theorem follow?_putAt_append (mark : Option Mark) (es : Entries) (v : Shared) (hq : q ≠ [])
    (p : List String) :
    (map mark (putAt es q v)).follow? (q ++ p) = v.follow? p := by
  induction q generalizing es mark with
  | nil => exact absurd rfl hq
  | cons k r ih =>
    cases r with
    | nil => exact (follow?_put es k k p v).trans (if_pos rfl)
    | cons l r =>
      rw [putAt_cons, List.cons_append, follow?_put, if_pos rfl]
      exact ih _ _ (List.cons_ne_nil l r)

/-- There are mappings on the way to a value that is put. -/
theorem isMap_follow?_putAt (mark : Option Mark) (es : Entries) (v : Shared) (h : p <+: q)
    (hne : p ≠ q) :
    ∃ x, (map mark (putAt es q v)).follow? p = some x ∧ x.data.isMap = true := by
  induction q generalizing es mark p with
  | nil => exact absurd (List.prefix_nil.mp h) hne
  | cons k r ih =>
    cases p with
    | nil => exact ⟨_, rfl, rfl⟩
    | cons l p =>
      obtain ⟨rfl, hp⟩ := List.cons_prefix_cons.mp h
      cases r with
      | nil => exact absurd (congrArg (l :: ·) (List.prefix_nil.mp hp)) hne
      | cons k r =>
        rw [putAt_cons, follow?_put, if_pos rfl]
        exact ih _ _ hp fun heq => hne (congrArg (l :: ·) heq)

/-- A value put at a key path changes nothing apart from it. -/
theorem follow?_putAt_of_apart (h : ¬ Comparable q p) :
    (map mark (putAt es q v)).follow? p = (map mark es).follow? p := by
  induction q generalizing es mark p with
  | nil => exact absurd (.inl List.nil_prefix) h
  | cons k r ih =>
    cases p with
    | nil => exact absurd (.inr List.nil_prefix) h
    | cons l p =>
      cases r with
      | nil =>
        have hl : l ≠ k := fun hl => h (comparable_cons.mpr ⟨hl.symm, .inl List.nil_prefix⟩)
        exact (follow?_put es k l p v).trans (if_neg hl)
      | cons k' r =>
        rw [putAt_cons, follow?_put]
        split
        next hl =>
          have h' : ¬ Comparable (k' :: r) p := fun hp => h (comparable_cons.mpr ⟨hl.symm, hp⟩)
          rw [ih h', hl]
          cases p with
          | nil => exact absurd (.inr List.nil_prefix) h'
          | cons l' p => exact (follow?_sectionAt es k l' p).symm
        next => rfl

/-- **What a value leaves** at the key paths that have to do with its own. -/
theorem leaves_putAt (hq : q ≠ []) (hd : d.isMap = false) (h : Comparable q p) :
    Leaves q d p ((map mark (putAt es q (.ofData d))).follow? p) := by
  rcases h with ⟨r, rfl⟩ | hp
  · rw [follow?_putAt_append mark es _ hq]
    cases r with
    | nil =>
      rw [List.append_nil]
      exact .here
    | cons k r =>
      rw [follow?_of_other (by rw [data_ofData, hd])]
      exact .beneath (List.prefix_append q _) fun hne => by simpa using congrArg List.length hne
  · by_cases hne : p = q
    · have hhere := follow?_putAt_append mark es (.ofData d) hq []
      rw [List.append_nil] at hhere
      rw [hne, hhere]
      exact .here
    · obtain ⟨x, hx, hmap⟩ := isMap_follow?_putAt mark es (.ofData d) hp hne
      rw [hx]
      exact .above hp hne hmap

/-! ## Mappings that stand in one place -/

theorem marks_sublist_of_get? (hy : get? es (.text k) = some y) :
    y.marks.Sublist (entryMarks es) := by
  induction es with
  | nil => cases hy
  | cons e r ih =>
    rw [get?_cons] at hy
    split at hy
    · cases hy
      exact List.sublist_append_left _ _
    · exact (ih hy).trans (List.sublist_append_right _ _)

/-- Where no mark is found twice, a change of one mapping is a change at the one key it stands
under. -/
theorem changeEntries_eq_put (hnodup : (entryMarks es).Nodup) (hy : get? es (.text k) = some y)
    (hm : m ∈ y.marks) (c : Entries → Entries) :
    changeEntries m c es = put es (.text k) (y.change m c) := by
  induction es with
  | nil => cases hy
  | cons e r ih =>
    obtain ⟨k', x⟩ := e
    obtain ⟨-, hr, hapart⟩ := List.nodup_append.mp hnodup
    rw [get?_cons] at hy
    rw [changeEntries, put]
    split at hy
    next hk =>
      cases hy
      rw [if_pos (Data.sameKey_text_iff.mpr hk),
        changeEntries_of_not_mem c r fun h => hapart m hm m h rfl]
    next hk =>
      rw [if_neg (mt Data.sameKey_text_iff.mp hk), ih hr hy,
        change_of_not_mem c x fun h => hapart m h m (mem_entryMarks_of_get? hy hm) rfl]

theorem mem_marks_of_holder? (h : holder? x p = some (m, rest)) : m ∈ x.marks := by
  induction p generalizing x with
  | nil =>
    cases x with
    | map mark es =>
      obtain ⟨n, rfl, hn⟩ := Option.map_eq_some_iff.mp h
      cases hn
      exact List.mem_cons_self
    | _ => cases h
  | cons k p ih =>
    cases x with
    | map mark es =>
      cases p with
      | nil =>
        obtain ⟨n, rfl, hn⟩ := Option.map_eq_some_iff.mp h
        cases hn
        exact List.mem_cons_self
      | cons l p =>
        rcases Option.or_eq_some_iff.mp h with h | ⟨-, h⟩
        · obtain ⟨y, hy, h⟩ := Option.bind_eq_some_iff.mp h
          exact List.mem_append_right _ (mem_entryMarks_of_get? hy (ih h))
        · obtain ⟨n, rfl, hn⟩ := Option.map_eq_some_iff.mp h
          cases hn
          exact List.mem_cons_self
    | _ => cases h

/-- A change of the mapping that takes a value puts it at its key path. -/
theorem change_holder (hnodup : x.marks.Nodup) (hp : p ≠ []) (h : holder? x p = some (m, rest))
    (v : Shared) :
    ∃ mark es, x = .map mark es ∧ x.change m (putAt · rest v) = .map mark (putAt es p v) := by
  induction p generalizing x with
  | nil => exact absurd rfl hp
  | cons k p ih =>
    cases x with
    | map mark es =>
      refine ⟨mark, es, rfl, ?_⟩
      -- either the mapping itself takes the value, or one inside of it does
      have hself (h : mark.map (·, k :: p) = some (m, rest)) :
          (map mark es).change m (putAt · rest v) = .map mark (putAt es (k :: p) v) := by
        obtain ⟨n, rfl, hn⟩ := Option.map_eq_some_iff.mp h
        cases hn
        rw [change, if_pos rfl]
      cases p with
      | nil => exact hself h
      | cons l p =>
        rcases Option.or_eq_some_iff.mp h with h | ⟨-, h⟩
        · obtain ⟨y, hy, h⟩ := Option.bind_eq_some_iff.mp h
          obtain ⟨-, hes, hapart⟩ := List.nodup_append.mp hnodup
          have hmy := mem_marks_of_holder? h
          have hmark : mark ≠ some m := fun hmark =>
            hapart m (hmark ▸ List.mem_singleton_self m) m (mem_entryMarks_of_get? hy hmy) rfl
          obtain ⟨mark', es', rfl, hchange⟩ := ih ((marks_sublist_of_get? hy).nodup hes) (List.cons_ne_nil l p) h
          rw [change, if_neg hmark, changeEntries_eq_put hes hy hmy, hchange, putAt, hy]
        · exact hself h
    | _ => cases p <;> cases h

/-- **A value put at a key path shows there alone**, where no mapping stands in two places. -/
theorem write_eq_putAt (hnodup : (entryMarks es).Nodup) (p : List String) (v : Shared) :
    write es p v = putAt es p v := by
  match p with
  | [] | [_] => rfl
  | k :: l :: r =>
    rw [write]
    split
    next m rest h =>
      obtain ⟨y, hy, h⟩ := Option.bind_eq_some_iff.mp h
      obtain ⟨mark, inner, rfl, hchange⟩ :=
        change_holder ((marks_sublist_of_get? hy).nodup hnodup) (List.cons_ne_nil l r) h v
      rw [changeEntries_eq_put hnodup hy (mem_marks_of_holder? h), hchange, putAt, hy]
    next => rfl

theorem entryMarks_put_sublist (h : x.marks.Sublist ((get? es (.text k)).elim [] marks)) :
    (entryMarks (put es (.text k) x)).Sublist (entryMarks es) := by
  induction es with
  | nil =>
    change (x.marks ++ []).Sublist []
    rwa [List.append_nil]
  | cons e r ih =>
    obtain ⟨k', y⟩ := e
    rw [get?_cons] at h
    rw [put]
    by_cases hk : k'.text? = some k
    · rw [if_pos hk] at h
      rw [if_pos (Data.sameKey_text_iff.mpr hk)]
      exact h.append_right _
    · rw [if_neg hk] at h
      rw [if_neg (mt Data.sameKey_text_iff.mp hk)]
      exact (ih h).append_left _

/-- A value without mappings brings no marks in. -/
theorem entryMarks_putAt_sublist (es : Entries) (hv : v.marks = []) (p : List String) :
    (entryMarks (putAt es p v)).Sublist (entryMarks es) := by
  induction p generalizing es with
  | nil => exact List.Sublist.refl _
  | cons k p ih =>
    cases p with
    | nil => exact entryMarks_put_sublist (hv ▸ List.nil_sublist _)
    | cons l p =>
      rw [putAt_cons]
      refine entryMarks_put_sublist (((ih _).append_left _).trans ?_)
      rw [sectionAt]
      rcases get? es (.text k) with _ | x
      · exact List.nil_sublist _
      · cases x with
        | map _ _ => exact List.Sublist.refl _
        | _ => exact List.nil_sublist _

end Shared

/-! ## Variables one after the other -/

namespace Environment

variable {env env' : Environment} {p q q' : List String} {u v : String × String} {d d' : Data}
  {a b : Option Shared}

/-- A variable that has to do with a key path. -/
def Concerns (v : String × String) (p : List String) : Prop :=
  ∃ q, keyPath? v.1 = some q ∧ Comparable q p

instance (v : String × String) (p : List String) : Decidable (Concerns v p) :=
  match h : keyPath? v.1 with
  | none => .isFalse fun ⟨_, hq, _⟩ => nomatch h.symm.trans hq
  | some q => decidable_of_iff (Comparable q p)
      ⟨fun hcomp => ⟨q, h, hcomp⟩, fun ⟨_, hq, hcomp⟩ => Option.some.inj (h.symm.trans hq) ▸ hcomp⟩

/-- The last variable that has to do with a key path. -/
def LastFor (env : Environment) (p : List String) (v : String × String) : Prop :=
  ∃ before after, env = before ++ v :: after ∧ Concerns v p ∧ ∀ u ∈ after, ¬ Concerns u p

/-- Variables whose key paths are apart. -/
def Apart (env : Environment) : Prop :=
  env.Pairwise fun u v => ∀ q, keyPath? u.1 = some q → ¬ Concerns v q

theorem lastFor_or (env : Environment) (p : List String) :
    (∃ v, LastFor env p v) ∨ ∀ v ∈ env, ¬ Concerns v p := by
  induction env with
  | nil => exact .inr fun v hv => absurd hv List.not_mem_nil
  | cons v r ih =>
    rcases ih with ⟨u, before, after, rfl, hu⟩ | hr
    · exact .inl ⟨u, v :: before, after, rfl, hu⟩
    · by_cases hv : Concerns v p
      · exact .inl ⟨v, [], r, rfl, hv, hr⟩
      · exact .inr (List.forall_mem_cons.mpr ⟨hv, hr⟩)

theorem LastFor.concerns (h : LastFor env p v) : Concerns v p := by
  obtain ⟨_, _, _, hv, _⟩ := h
  exact hv

/-- Only one variable is the last. -/
theorem LastFor.unique (hu : LastFor env p u) (hv : LastFor env p v) : u = v := by
  obtain ⟨before, after, rfl, hup, hafter⟩ := hu
  obtain ⟨before', after', heq, hvp, hafter'⟩ := hv
  rcases List.append_eq_append_iff.mp heq with ⟨c, -, hc⟩ | ⟨c, -, hc⟩
  · cases c with
    | nil => exact (List.cons.inj hc).1
    | cons w c =>
      have hmem : v ∈ after := (List.cons.inj hc).2 ▸ List.mem_append_right _ List.mem_cons_self
      exact absurd hvp (hafter v hmem)
  · cases c with
    | nil => exact (List.cons.inj hc).1.symm
    | cons w c =>
      have hmem : u ∈ after' := (List.cons.inj hc).2 ▸ List.mem_append_right _ List.mem_cons_self
      exact absurd hup (hafter' u hmem)

theorem LastFor.mem (h : LastFor env p v) : v ∈ env := by
  obtain ⟨before, after, rfl, -⟩ := h
  exact List.mem_append_right _ List.mem_cons_self

/-- Of variables whose key paths are apart, those with comparable ones are one. -/
theorem Apart.eq (h : Apart env) (hu : u ∈ env) (hv : v ∈ env) (hq : keyPath? u.1 = some q)
    (hq' : keyPath? v.1 = some q') (hcomp : Comparable q' q) : u = v := by
  have hsymm : Std.Symm fun u v : String × String => ∀ q, keyPath? u.1 = some q → ¬ Concerns v q :=
    ⟨fun u v huv q hq ⟨r, hr, hcomp⟩ => huv r hr ⟨q, hq, hcomp.symm⟩⟩
  by_contra hne
  exact List.Pairwise.forall h hu hv hne q hq ⟨q', hq', hcomp⟩

/-! ## Values that agree -/

/-- **What is at a key path of two configurations agrees**: both have a mapping there, or they have
the same. -/
def Agree (a b : Option Shared) : Prop :=
  a = b ∨ ∃ x y, a = some x ∧ b = some y ∧ x.data.isMap = true ∧ y.data.isMap = true

theorem Leaves.eq_some (h : Leaves q d q a) : a = some (.ofData d) := by
  cases h with
  | here => rfl
  | beneath _ hne => exact absurd rfl hne
  | above _ hne => exact absurd rfl hne

theorem Leaves.eq_none (h : Leaves q d p a) (hq : q <+: p) (hne : q ≠ p) : a = none := by
  cases h with
  | here => exact absurd rfl hne
  | beneath => rfl
  | above h' => exact absurd (hq.eq_of_length_le h'.length_le) hne

theorem Leaves.agree (ha : Leaves q d p a) (hb : Leaves q d p b) : Agree a b := by
  cases ha with
  | here => exact .inl hb.eq_some.symm
  | beneath h hne => exact .inl (hb.eq_none h hne).symm
  | above h hne hx =>
    cases hb with
    | here => exact absurd rfl hne
    | beneath h' => exact absurd (h.eq_of_length_le h'.length_le) hne
    | above _ _ hy => exact .inr ⟨_, _, rfl, rfl, hx, hy⟩

/-- Values at key paths that are apart both leave a mapping where they leave anything. -/
theorem Leaves.agree_of_apart (ha : Leaves q d p a) (hb : Leaves q' d' p b)
    (h : ¬ Comparable q' q) : Agree a b := by
  have hbeside {r r' : List String} (hr : r <+: p) (hr' : Comparable r' p) : Comparable r' r := by
    rcases hr' with hr' | hr'
    · exact List.prefix_or_prefix_of_prefix hr' hr
    · exact .inr (hr.trans hr')
  cases ha with
  | here =>
    refine absurd ?_ h
    cases hb with
    | here => exact .inl List.prefix_rfl
    | beneath h' => exact .inl h'
    | above h' => exact .inr h'
  | beneath hq =>
    refine absurd (hbeside hq ?_) h
    cases hb with
    | here => exact .inl List.prefix_rfl
    | beneath h' => exact .inl h'
    | above h' => exact .inr h'
  | above hq hne hx =>
    cases hb with
    | here => exact absurd (.inl hq) h
    | beneath h' => exact absurd (.inl (h'.trans hq)) h
    | above _ _ hy => exact .inr ⟨_, _, rfl, rfl, hx, hy⟩

end Environment

/-! ## The law of variables -/

open Environment Shared

variable {es : Shared.Entries} {env env' : Environment} {p : List String}

theorem overrideAll_append (c : Shared) (before after : Environment) :
    c.overrideAll (before ++ after) =
      (c.overrideAll before).bind fun c => c.overrideAll after := by
  rw [Shared.overrideAll, List.foldlM_append]
  rfl

/-- A variable without a key path changes nothing. -/
theorem overrideAll_cons_of_none (c : Shared) {v : String × String} (hv : keyPath? v.1 = none)
    (r : Environment) : c.overrideAll (v :: r) = c.overrideAll r := by
  rw [Shared.overrideAll, List.foldlM_cons, Shared.overrideBy, hv]
  rfl

theorem overrideAll_of_none (c : Shared) (henv : ∀ v ∈ env, keyPath? v.1 = none) :
    c.overrideAll env = .ok c := by
  induction env with
  | nil => rfl
  | cons v r ih =>
    obtain ⟨hv, hr⟩ := List.forall_mem_cons.mp henv
    rw [overrideAll_cons_of_none c hv, ih hr]

/-- A variable with a key path writes its value there. -/
theorem overrideAll_cons (mark : Option Mark) (es : Shared.Entries) {v : String × String}
    {q : List String} (hq : keyPath? v.1 = some q) (r : Environment) :
    (Shared.map mark es).overrideAll (v :: r) =
      (Shared.map mark (write es q (.ofData (coerce v.2)))).overrideAll r := by
  rw [Shared.overrideAll, List.foldlM_cons, Shared.overrideBy, hq]
  rfl

/-- **Variables change nothing apart from their key paths**, and bring no second place for a mapping. -/
theorem exists_overrideAll_apart (mark : Option Mark) (hnodup : (entryMarks es).Nodup)
    (env : Environment) :
    ∃ es', (Shared.map mark es).overrideAll env = .ok (.map mark es') ∧ (entryMarks es').Nodup ∧
      ∀ p, (∀ v ∈ env, ¬ Concerns v p) →
        (Shared.map mark es').follow? p = (Shared.map mark es).follow? p := by
  induction env generalizing es with
  | nil => exact ⟨es, rfl, hnodup, fun p _ => rfl⟩
  | cons v r ih =>
    cases hq : keyPath? v.1 with
    | none =>
      obtain ⟨es', hes', hnodup', hsame⟩ := ih hnodup
      refine ⟨es', ?_, hnodup', fun p hp => hsame p (List.forall_mem_cons.mp hp).2⟩
      rw [overrideAll_cons_of_none _ hq, hes']
    | some q =>
      have hput := (entryMarks_putAt_sublist es (marks_ofData (coerce v.2)) q).nodup hnodup
      obtain ⟨es', hes', hnodup', hsame⟩ := ih hput
      refine ⟨es', ?_, hnodup', fun p hp => ?_⟩
      · rw [overrideAll_cons mark es hq, write_eq_putAt hnodup, hes']
      · obtain ⟨hv, hr⟩ := List.forall_mem_cons.mp hp
        rw [hsame p hr, follow?_putAt_of_apart fun hcomp => hv ⟨q, hq, hcomp⟩]

/-- **The last variable that has to do with a key path decides** what is there. -/
theorem leaves_overrideAll {mark : Option Mark} (hnodup : (entryMarks es).Nodup)
    {v : String × String} (hv : LastFor env p v) {es' : Shared.Entries}
    (hes' : (Shared.map mark es).overrideAll env = .ok (.map mark es')) :
    ∃ q, keyPath? v.1 = some q ∧ Leaves q (coerce v.2) p ((Shared.map mark es').follow? p) := by
  obtain ⟨before, after, rfl, ⟨q, hq, hcomp⟩, hafter⟩ := hv
  refine ⟨q, hq, ?_⟩
  obtain ⟨es₁, hes₁, hnodup₁, -⟩ := exists_overrideAll_apart mark hnodup before
  -- after the variable, what it left at the key path stays
  have hput := (entryMarks_putAt_sublist es₁ (marks_ofData (coerce v.2)) q).nodup hnodup₁
  obtain ⟨es₂, hes₂, -, hsame⟩ := exists_overrideAll_apart mark hput after
  have hall : (Shared.map mark es).overrideAll (before ++ v :: after) = .ok (.map mark es₂) := by
    rw [overrideAll_append, hes₁, Except.bind, overrideAll_cons mark es₁ hq, write_eq_putAt hnodup₁,
      hes₂]
  rw [hall] at hes'
  cases hes'
  rw [hsame p hafter]
  exact leaves_putAt (ne_nil_of_keyPath? hq) (isMap_coerce v.2) hcomp

/-- **Variables whose key paths are apart can come in any order.** -/
theorem agree_of_perm {mark : Option Mark} (hnodup : (entryMarks es).Nodup) (hperm : env'.Perm env)
    (hapart : Apart env) {es₁ es₂ : Shared.Entries}
    (hes₁ : (Shared.map mark es).overrideAll env = .ok (.map mark es₁))
    (hes₂ : (Shared.map mark es).overrideAll env' = .ok (.map mark es₂)) (p : List String) :
    Agree ((Shared.map mark es₁).follow? p) ((Shared.map mark es₂).follow? p) := by
  rcases lastFor_or env p with ⟨u, hu⟩ | hnone
  · obtain ⟨q, hq, ha⟩ := leaves_overrideAll hnodup hu hes₁
    rcases lastFor_or env' p with ⟨v, hv⟩ | hnone
    · obtain ⟨q', hq', hb⟩ := leaves_overrideAll hnodup hv hes₂
      by_cases hcomp : Comparable q' q
      · obtain rfl := hapart.eq hu.mem (hperm.mem_iff.mp hv.mem) hq hq' hcomp
        rw [hq] at hq'
        cases hq'
        exact ha.agree hb
      · exact ha.agree_of_apart hb hcomp
    · exact absurd hu.concerns (hnone u (hperm.mem_iff.mpr hu.mem))
  · have hnone' : ∀ v ∈ env', ¬ Concerns v p := fun v hv => hnone v (hperm.mem_iff.mp hv)
    obtain ⟨es₁', hes₁', -, hsame₁⟩ := exists_overrideAll_apart mark hnodup env
    obtain ⟨es₂', hes₂', -, hsame₂⟩ := exists_overrideAll_apart mark hnodup env'
    rw [hes₁] at hes₁'
    rw [hes₂] at hes₂'
    cases hes₁'
    cases hes₂'
    exact .inl ((hsame₁ p hnone).trans (hsame₂ p hnone').symm)

/-- **What an environment makes of a configuration**, no mapping of which stands in two places. There
is a result, and at every key path it has what the last variable that has to do with it leaves, or
else what was there. If the key paths of the variables are apart, their order does not matter. -/
theorem overrideAll_at_key_path (mark : Option Mark) (hnodup : (entryMarks es).Nodup)
    (env : Environment) :
    ∃ es', (Shared.map mark es).overrideAll env = .ok (.map mark es') ∧
      (∀ p, (∃ v q, LastFor env p v ∧ keyPath? v.1 = some q ∧
          Leaves q (coerce v.2) p ((Shared.map mark es').follow? p)) ∨
        (∀ v ∈ env, ¬ Concerns v p) ∧
          (Shared.map mark es').follow? p = (Shared.map mark es).follow? p) ∧
      ∀ env', env'.Perm env → Apart env →
        ∃ es₂, (Shared.map mark es).overrideAll env' = .ok (.map mark es₂) ∧
          ∀ p, Agree ((Shared.map mark es').follow? p) ((Shared.map mark es₂).follow? p) := by
  obtain ⟨es', hes', -, hsame⟩ := exists_overrideAll_apart mark hnodup env
  refine ⟨es', hes', fun p => ?_, fun env' hperm hapart => ?_⟩
  · rcases lastFor_or env p with ⟨v, hv⟩ | hnone
    · obtain ⟨q, hq, hleaves⟩ := leaves_overrideAll hnodup hv hes'
      exact .inl ⟨v, q, hv, hq, hleaves⟩
    · exact .inr ⟨hnone, hsame p hnone⟩
  · obtain ⟨es₂, hes₂, -, -⟩ := exists_overrideAll_apart mark hnodup env'
    exact ⟨es₂, hes₂, agree_of_perm hnodup hperm hapart hes' hes₂⟩

/-- A mapping of two values, and a value. -/
def nestedKeys : Shared.Entries := [
  (.text "a", .map none [(.text "b", .ofData (.int 1)), (.text "c", .ofData (.text "x"))]),
  (.text "s", .ofData (.int 3))]

/-- Variables that put a value into the mapping, one in its place, and one into a new mapping there. -/
def revived : Environment :=
  [("PROBLEMIFY_A__B", "2"), ("PROBLEMIFY_A", "5"), ("PROBLEMIFY_A__C__D", "true"), ("S", "4")]

/-- What was put first is gone with the mapping that it was put into. -/
theorem overrideAll_at_revived_key_path :
    ∃ es', (Shared.map none nestedKeys).overrideAll revived = .ok (.map none es') ∧
      (Shared.map none es').follow? ["a", "b"] = none ∧
      (Shared.map none es').follow? ["a", "c", "d"] = some (.ofData (.bool true)) ∧
      (Shared.map none es').follow? ["s"] = some (.ofData (.int 3)) := by
  have hnodup : (entryMarks nestedKeys).Nodup := List.nodup_nil
  obtain ⟨es', hes', hat, -⟩ := overrideAll_at_key_path none hnodup revived
  have hdecides {p q : List String} {v : String × String} (hv : LastFor revived p v)
      (hq : keyPath? v.1 = some q) :
      Leaves q (coerce v.2) p ((Shared.map none es').follow? p) := by
    rcases hat p with ⟨u, r, hu, hr, hleaves⟩ | ⟨hnone, -⟩
    · cases hu.unique hv
      cases hr.symm.trans hq
      exact hleaves
    · exact absurd hv.concerns (hnone v hv.mem)
  have ha : LastFor revived ["a", "b"] ("PROBLEMIFY_A", "5") :=
    ⟨[_], [_, _], rfl, by decide, by decide⟩
  have hd : LastFor revived ["a", "c", "d"] ("PROBLEMIFY_A__C__D", "true") :=
    ⟨[_, _], [_], rfl, by decide, by decide⟩
  have htrue : coerce "true" = .bool true := by cbv
  refine ⟨es', hes', ?_, ?_, ?_⟩
  · exact (hdecides (q := ["a"]) ha (by decide)).eq_none (by decide) (by decide)
  · exact htrue ▸ (hdecides hd (by decide)).eq_some
  · rcases hat ["s"] with ⟨v, -, hv, -, -⟩ | ⟨-, hsame⟩
    · exact absurd hv.concerns ((by decide : ∀ v ∈ revived, ¬ Concerns v ["s"]) v hv.mem)
    · exact hsame

/-! ## A mapping that stands in two places -/

/-- Variables for two sections. -/
def twoSections : Environment :=
  [("PROBLEMIFY_PROCESSING__ENCODING", "ascii"), ("PROBLEMIFY_GENERAL__ENCODING", "latin-1")]

/-- Two sections that are one mapping with a value for the encoding. -/
def bothSections (value : String) : Shared.Entries :=
  let fields := Shared.map (some ⟨Config.sharedName, 12⟩) [(.text "encoding", .ofData (.text value))]
  [(.text "general", fields), (.text "processing", fields)]

/-- **Order matters to an alias.** A document gives one mapping to two sections. Two variables have
key paths that are apart, one for each section, and whichever comes last has its value in both. -/
theorem order_matters_to_alias :
    Config.ofBytes Config.sharedName Config.twoNames.toUTF8.toList =
        .ok (.map (some ⟨Config.sharedName, 17⟩) Config.aliasedFields) ∧
      Apart twoSections ∧
      LastFor twoSections ["processing", "encoding"] ("PROBLEMIFY_PROCESSING__ENCODING", "ascii") ∧
      (Shared.map none Config.aliasedFields).overrideAll twoSections =
        .ok (.map none (bothSections "latin-1")) ∧
      (Shared.map none Config.aliasedFields).overrideAll twoSections.reverse =
        .ok (.map none (bothSections "ascii")) ∧
      (Shared.map none (bothSections "latin-1")).follow? ["processing", "encoding"] =
        some (.ofData (.text "latin-1")) ∧
      ¬ Agree ((Shared.map none (bothSections "latin-1")).follow? ["processing", "encoding"])
        ((Shared.map none (bothSections "ascii")).follow? ["processing", "encoding"]) := by
  have hfirst : keyPath? "PROBLEMIFY_PROCESSING__ENCODING" = some ["processing", "encoding"] := by
    decide
  have hsecond : keyPath? "PROBLEMIFY_GENERAL__ENCODING" = some ["general", "encoding"] := by
    decide
  have hascii : coerce "ascii" = .text "ascii" := coerce_of_verbatim (by decide)
  have hlatin : coerce "latin-1" = .text "latin-1" := coerce_of_verbatim (by decide)
  refine ⟨Config.ofBytes_twoNames, ?_, ?_, ?_, ?_, rfl, ?_⟩
  · refine List.pairwise_pair.mpr fun q hq => ?_
    cases hfirst.symm.trans hq
    decide
  · exact ⟨[], [_], rfl, by decide, by decide⟩
  · rw [twoSections, overrideAll_cons _ _ hfirst, overrideAll_cons _ _ hsecond, hascii, hlatin]
    rfl
  · change (Shared.map none _).overrideAll [_, _] = _
    rw [overrideAll_cons _ _ hsecond, overrideAll_cons _ _ hfirst, hascii, hlatin]
    rfl
  · rintro (h | ⟨x, y, hx, -, hmap, -⟩)
    · have htext := Data.text.inj (congrArg Shared.data (Option.some.inj h))
      exact absurd htext (by decide)
    · cases hx
      cases hmap

end Handout
