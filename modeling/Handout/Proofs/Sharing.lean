import Handout.Config.Merge

/-!
# Shared mappings

What is read back from entries after one is put, after entries are laid over others, and after a
value is put at a key path. A key path of two parts leads to a field of a section: what is put there
changes this section alone, where the section's mapping stands nowhere else (`get?_write`), and this
field alone (`at?_write`). Laid over a base, entries with fields of their own keep them and let those
of the base through (`at?_mergeEntries`).
-/

namespace Handout

/-! ## Keys that are texts -/

theorem Data.sameKey_text_iff {k : Data} {t : String} :
    k.sameKey (.text t) = true ↔ k.text? = some t := by
  cases k <;> simp [Data.sameKey, Data.integer?, Data.text?]

theorem Data.text_sameKey_iff {k : Data} {t : String} :
    (Data.text t).sameKey k = true ↔ k.text? = some t := by
  cases k <;> simp [Data.sameKey, Data.integer?, Data.text?, @eq_comm _ t]

theorem Data.text?_eq_some {k : Data} {t : String} : k.text? = some t ↔ k = .text t := by
  cases k <;> simp [Data.text?]

namespace Shared

variable {es base layer : Entries} {k : Data} {v : Shared} {s t f g : String} {m : Mark}

/-! ## Values as they read -/

mutual

@[simp] theorem data_ofData : ∀ d, (ofData d).data = d
  | .map es => congrArg Data.map (mapping_ofMapping es)
  | .null | .bool _ | .int _ | .float _ | .text _ | .bytes _ | .date _ | .moment _
  | .list _ | .tuple _ | .set _ => rfl

@[simp] theorem mapping_ofMapping : ∀ es, mapping (ofMapping es) = es
  | [] => rfl
  | (k, d) :: r => by rw [ofMapping, mapping, data_ofData d, mapping_ofMapping r]

end

/-- What reads as a mapping is one. -/
theorem eq_map_of_data {x : Shared} {e : Mapping} (h : x.data = .map e) :
    ∃ mark fs, x = .map mark fs ∧ mapping fs = e := by
  cases x with
  | plain d hd => cases h; cases hd
  | list xs => cases h
  | pairs es => cases h
  | map mark fs => exact ⟨mark, fs, rfl, Data.map.inj h⟩

theorem field?_mapping (es : Entries) (t : String) :
    Mapping.field? (mapping es) t = (get? es (.text t)).map data := by
  induction es with
  | nil => rfl
  | cons e r ih =>
    obtain ⟨k, x⟩ := e
    simp only [Mapping.field?, Mapping.get?, get?, mapping, List.find?_cons] at ih ⊢
    cases k.sameKey (.text t) with
    | true => rfl
    | false => exact ih

/-! ## Entries put -/

theorem get?_cons (e : Data × Shared) (r : Entries) (t : String) :
    get? (e :: r) (.text t) = if e.1.text? = some t then some e.2 else get? r (.text t) := by
  rw [get?, List.find?_cons]
  by_cases h : e.1.text? = some t
  · simp only [Data.sameKey_text_iff.mpr h, if_pos h, Option.map_some]
  · rw [if_neg h, Bool.eq_false_iff.mpr (mt Data.sameKey_text_iff.mp h)]
    rfl

/-- **What is put is there**, and nothing else is changed. -/
theorem get?_put (es : Entries) (k : Data) (v : Shared) (t : String) :
    get? (put es k v) (.text t) = if k.text? = some t then some v else get? es (.text t) := by
  induction es with
  | nil => exact get?_cons (k, v) [] t
  | cons e r ih =>
    obtain ⟨k', x⟩ := e
    rw [put, get?_cons]
    -- of two keys that are the same, one is a given text where the other is
    have hboth (hsame : k'.sameKey k = true) : k'.text? = some t ↔ k.text? = some t := by
      constructor
      · intro h
        rw [Data.text?_eq_some.mp h] at hsame
        exact Data.text_sameKey_iff.mp hsame
      · intro h
        rw [Data.text?_eq_some.mp h] at hsame
        exact Data.sameKey_text_iff.mp hsame
    split
    next hsame =>
      rw [get?_cons]
      by_cases hk : k.text? = some t
      · rw [if_pos hk, if_pos ((hboth hsame).mpr hk)]
      · rw [if_neg hk, if_neg (mt (hboth hsame).mp hk), if_neg (mt (hboth hsame).mp hk)]
    next hother =>
      rw [get?_cons, ih]
      by_cases hk' : k'.text? = some t
      · have hk : k.text? ≠ some t := fun hk => hother <| by
          rw [Data.text?_eq_some.mp hk', Data.text?_eq_some.mp hk]
          exact Data.text_sameKey_iff.mpr rfl
        rw [if_pos hk', if_neg hk, if_pos hk']
      · rw [if_neg hk', if_neg hk']

/-! ## Where a mapping stands -/

mutual

/-- The marks of the mappings in a value, its own one first. -/
def marks : Shared → List Mark
  | .plain _ _ => []
  | .list xs => itemMarks xs
  | .pairs es => entryMarks es
  | .map mark es => mark.toList ++ entryMarks es
  termination_by structural s => s

/-- The marks in the items of a list. -/
def itemMarks : List Shared → List Mark
  | [] => []
  | x :: xs => x.marks ++ itemMarks xs
  termination_by structural xs => xs

/-- The marks in the values of entries. -/
def entryMarks : Entries → List Mark
  | [] => []
  | (_, v) :: r => v.marks ++ entryMarks r
  termination_by structural es => es

end

mutual

/-- Where a mapping does not stand, a change of it does not show. -/
theorem change_of_not_mem (c : Entries → Entries) : ∀ x : Shared, m ∉ x.marks → x.change m c = x
  | .plain _ _, _ => rfl
  | .list xs, h => congrArg list (changeItems_of_not_mem c xs h)
  | .pairs es, h => congrArg pairs (changeEntries_of_not_mem c es h)
  | .map mark es, h => by
    obtain ⟨hm, hes⟩ := not_or.mp (mt List.mem_append.mpr h)
    have hmark : mark ≠ some m := fun he => hm (he ▸ List.mem_singleton_self m)
    rw [change, if_neg hmark, changeEntries_of_not_mem c es hes]

theorem changeItems_of_not_mem (c : Entries → Entries) :
    ∀ xs : List Shared, m ∉ itemMarks xs → changeItems m c xs = xs
  | [], _ => rfl
  | x :: xs, h => by
    obtain ⟨hx, hxs⟩ := not_or.mp (mt List.mem_append.mpr h)
    rw [changeItems, change_of_not_mem c x hx, changeItems_of_not_mem c xs hxs]

theorem changeEntries_of_not_mem (c : Entries → Entries) :
    ∀ es : List (Data × Shared), m ∉ entryMarks es → changeEntries m c es = es
  | [], _ => rfl
  | (k, x) :: r, h => by
    obtain ⟨hx, hr⟩ := not_or.mp (mt List.mem_append.mpr h)
    rw [changeEntries, change_of_not_mem c x hx, changeEntries_of_not_mem c r hr]

end

theorem get?_changeEntries (m : Mark) (c : Entries → Entries) (es : Entries) (t : String) :
    get? (changeEntries m c es) (.text t) = (get? es (.text t)).map (change m c) := by
  induction es with
  | nil => rfl
  | cons e r ih =>
    rw [changeEntries, get?_cons, get?_cons, ih]
    split <;> rfl

theorem mem_entryMarks_put {n : Mark} (h : n ∈ entryMarks (put es k v)) :
    n ∈ entryMarks es ∨ n ∈ v.marks := by
  induction es with
  | nil => exact .inr ((List.mem_append.mp h).resolve_right List.not_mem_nil)
  | cons e r ih =>
    obtain ⟨k', x⟩ := e
    rw [put] at h
    split at h
    · rcases List.mem_append.mp h with hv | hr
      · exact .inr hv
      · exact .inl (List.mem_append_right _ hr)
    · rcases List.mem_append.mp h with hx | hr
      · exact .inl (List.mem_append_left _ hx)
      · exact (ih hr).imp_left (List.mem_append_right _)

/-! ## Sections and their fields -/

/-- The mapping of a section with its mark; where there is none, a new one. -/
def sectionAt (es : Entries) (s : String) : Option Mark × Entries :=
  match get? es (.text s) with
  | some (.map mark fs) => (mark, fs)
  | _ => (none, [])

/-- The field of a section. -/
def at? (es : Entries) (s f : String) : Option Shared :=
  get? (sectionAt es s).2 (.text f)

/-- **Sections that stand alone**: the mapping of a section is found nowhere outside of it. -/
def Alone (es : Entries) : Prop :=
  ∀ s m, (sectionAt es s).1 = some m → ∀ t x, t ≠ s → get? es (.text t) = some x → m ∉ x.marks

theorem sectionAt_of_get? {mark : Option Mark} {fs : Entries}
    (h : get? es (.text s) = some (.map mark fs)) : sectionAt es s = (mark, fs) := by
  rw [sectionAt, h]

theorem get?_put_text :
    get? (put es (.text s) v) (.text t) = if t = s then some v else get? es (.text t) := by
  rw [get?_put]
  simp only [Data.text?, Option.some.injEq, @eq_comm _ s]

/-- Beyond its first key, a value goes into the mapping that is there, or into a new one. -/
theorem putAt_cons (es : Entries) (k l : String) (r : List String) (v : Shared) :
    putAt es (k :: l :: r) v =
      put es (.text k) (.map (sectionAt es k).1 (putAt (sectionAt es k).2 (l :: r) v)) := by
  rw [putAt, sectionAt]
  rcases get? es (.text k) with _ | x
  · rfl
  · cases x <;> rfl

theorem putAt_field (es : Entries) (s f : String) (v : Shared) :
    putAt es [s, f] v =
      put es (.text s) (.map (sectionAt es s).1 (put (sectionAt es s).2 (.text f) v)) :=
  putAt_cons es s f [] v

theorem holder?_field (es : Entries) (s f : String) :
    (get? es (.text s)).bind (holder? · [f]) = (sectionAt es s).1.map (·, [f]) := by
  rw [sectionAt]
  match get? es (.text s) with
  | none | some (.plain _ _) | some (.list _) | some (.pairs _) | some (.map _ _) => rfl

theorem get?_of_sectionAt (h : (sectionAt es s).1 = some m) :
    get? es (.text s) = some (.map (some m) (sectionAt es s).2) := by
  rw [sectionAt] at h ⊢
  split at h
  next mark fs hs => rw [hs, ← h]
  next => cases h

/-- **A value put at a section and a field changes that section alone**, where sections stand
alone. -/
theorem get?_write (halone : Alone es) :
    get? (write es [s, f] v) (.text t) =
      if t = s then some (.map (sectionAt es s).1 (put (sectionAt es s).2 (.text f) v))
      else get? es (.text t) := by
  rw [write, holder?_field]
  cases hmark : (sectionAt es s).1 with
  | none => rw [Option.map_none, putAt_field, hmark, get?_put_text]
  | some m =>
    rw [Option.map_some, get?_changeEntries]
    by_cases hts : t = s
    · rw [if_pos hts, hts, get?_of_sectionAt hmark, Option.map_some, change, if_pos rfl]
      rfl
    · rw [if_neg hts]
      cases ht : get? es (.text t) with
      | none => rfl
      | some x => exact congrArg some (change_of_not_mem _ x (halone s m hmark t x hts ht))

theorem sectionAt_write (halone : Alone es) :
    sectionAt (write es [s, f] v) t =
      if t = s then ((sectionAt es s).1, put (sectionAt es s).2 (.text f) v)
      else sectionAt es t := by
  rw [sectionAt, get?_write halone]
  by_cases h : t = s
  · simp [h]
  · simp [h, sectionAt]

/-- **A value put at a section and a field is there**, and no other field is changed. -/
theorem at?_write (halone : Alone es) :
    at? (write es [s, f] v) t g = if t = s ∧ g = f then some v else at? es t g := by
  rw [at?, sectionAt_write halone]
  by_cases hts : t = s
  · subst hts
    simp only [if_pos, get?_put_text, true_and]
    rfl
  · simp [hts, at?]

/-- The marks of a section before it takes a value. -/
theorem mem_marks_of_get? {n : Mark}
    (h : n ∈ (sectionAt es s).1.toList ++ entryMarks (sectionAt es s).2) :
    ∃ x, get? es (.text s) = some x ∧ n ∈ x.marks := by
  rw [sectionAt] at h
  split at h
  next mark fs hs => exact ⟨_, hs, h⟩
  next => simp [entryMarks] at h

/-- Sections stay alone when a value without mappings is put into one of them. -/
theorem alone_write (halone : Alone es) (hv : v.marks = []) : Alone (write es [s, f] v) := by
  intro a m ha b x hba hb hm
  rw [sectionAt_write halone] at ha
  rw [get?_write halone] at hb
  -- the marks of the section that takes the value are marks that it had before
  have hmem : ∃ y, get? es (.text b) = some y ∧ m ∈ y.marks := by
    by_cases hbs : b = s
    · rw [if_pos hbs] at hb
      obtain rfl := Option.some.inj hb
      subst hbs
      refine mem_marks_of_get? (List.mem_append.mpr ?_)
      rcases List.mem_append.mp hm with h | h
      · exact .inl h
      · exact .inr ((mem_entryMarks_put h).resolve_right (hv ▸ List.not_mem_nil))
    · rw [if_neg hbs] at hb
      exact ⟨x, hb, hm⟩
  have hown : (sectionAt es a).1 = some m := by
    by_cases has : a = s
    · rw [if_pos has] at ha
      exact has ▸ ha
    · rwa [if_neg has] at ha
  obtain ⟨y, hy, hmy⟩ := hmem
  exact halone a m hown b y hba hy hmy

theorem mem_entryMarks_of_get? {n : Mark} (hv : get? es (.text s) = some v) (hn : n ∈ v.marks) :
    n ∈ entryMarks es := by
  induction es with
  | nil => cases hv
  | cons e r ih =>
    rw [get?_cons] at hv
    split at hv
    · cases hv
      exact List.mem_append_left _ hn
    · exact List.mem_append_right _ (ih hv)

/-- Where no mark is found twice, sections stand alone. -/
theorem alone_of_nodup (h : (entryMarks es).Nodup) : Alone es := by
  intro s m hm t x hts ht hx
  have hs := get?_of_sectionAt hm
  have hown : m ∈ (map (some m) (sectionAt es s).2).marks := List.mem_cons_self
  generalize map (some m) (sectionAt es s).2 = y at hs hown
  clear hm
  induction es with
  | nil => cases hs
  | cons e r ih =>
    obtain ⟨-, hr, hapart⟩ := List.nodup_append.mp h
    rw [get?_cons] at hs ht
    split at hs
    next hes =>
      cases hs
      have het : e.1.text? ≠ some t := fun h => hts (Option.some.inj (h.symm.trans hes))
      rw [if_neg het] at ht
      exact hapart m hown m (mem_entryMarks_of_get? ht hx) rfl
    next hes =>
      split at ht
      · cases ht
        exact hapart m hx m (mem_entryMarks_of_get? hs hown) rfl
      · exact ih hr ht hs

/-! ## Entries laid over others -/

/-- The keys of entries that are texts. -/
def textKeys (es : Entries) : List String :=
  es.filterMap (·.1.text?)

theorem get?_eq_none (h : t ∉ textKeys es) : get? es (.text t) = none := by
  induction es with
  | nil => rfl
  | cons e r ih =>
    have hr : t ∉ textKeys r := fun ht => h (by
      obtain ⟨x, hx, hxt⟩ := List.mem_filterMap.mp ht
      exact List.mem_filterMap.mpr ⟨x, List.mem_cons_of_mem e hx, hxt⟩)
    have he : e.1.text? ≠ some t := fun he =>
      h (List.mem_filterMap.mpr ⟨e, List.mem_cons_self, he⟩)
    rw [get?_cons, if_neg he, ih hr]

/-- **Entries laid over a base**: each is laid over the one at its key, and the others of the base
are let through. -/
theorem get?_mergeEntries (hkeys : (textKeys layer).Nodup) (base : Entries) (t : String) :
    get? (mergeEntries layer base) (.text t) =
      match get? layer (.text t) with
      | some v => some (v.override (get? base (.text t)))
      | none => get? base (.text t) := by
  induction layer generalizing base with
  | nil => rfl
  | cons e r ih =>
    obtain ⟨k, v⟩ := e
    have hr : (textKeys r).Nodup := (List.sublist_cons_self (k, v) r |>.filterMap _).nodup hkeys
    rw [mergeEntries, ih hr, get?_put, get?_cons]
    by_cases hk : k.text? = some t
    · have hone : textKeys ((k, v) :: r) = t :: textKeys r := List.filterMap_cons_some hk
      rw [get?_eq_none (List.nodup_cons.mp (hone ▸ hkeys)).1]
      simp only [if_pos hk]
      rw [Data.text?_eq_some.mp hk]
    · simp only [if_neg hk]

/-- Sections of plain fields: each section is a mapping, and none of its fields is one. -/
def Flat (es : Entries) : Prop :=
  ∀ s x, get? es (.text s) = some x →
    ∃ mark fs, x = .map mark fs ∧ (textKeys fs).Nodup ∧
      ∀ f y, get? fs (.text f) = some y → y.data.isMap = false

theorem override_of_plain {x : Shared} (h : x.data.isMap = false) (o : Option Shared) :
    x.override o = x := by
  cases x with
  | map mark es => cases h
  | plain d hd => rfl
  | list xs => rfl
  | pairs es => rfl

theorem override_of_other {mark : Option Mark} {o : Option Shared}
    (h : ∀ mark' gs, o ≠ some (.map mark' gs)) : (map mark es).override o = map mark es := by
  match o with
  | none | some (.plain _ _) | some (.list _) | some (.pairs _) => rfl
  | some (.map mark' gs) => exact absurd rfl (h mark' gs)

theorem at?_of_get? {mark : Option Mark} {fs : Entries}
    (h : get? es (.text s) = some (.map mark fs)) (f : String) :
    at? es s f = get? fs (.text f) := by
  rw [at?, sectionAt_of_get? h]

theorem at?_of_other (h : ∀ mark fs, get? es (.text s) ≠ some (.map mark fs)) (f : String) :
    at? es s f = none := by
  rw [at?, sectionAt]
  split
  next mark fs hs => exact absurd hs (h mark fs)
  next => rfl

/-- **Sections of plain fields laid over a base**: a field that the layer has stands, and the other
fields of the base are let through. -/
theorem at?_mergeEntries (hkeys : (textKeys layer).Nodup) (hflat : Flat layer) (base : Entries)
    (s f : String) :
    at? (mergeEntries layer base) s f = (at? layer s f).or (at? base s f) := by
  have hget := get?_mergeEntries hkeys base s
  cases hs : get? layer (.text s) with
  | none =>
    rw [hs] at hget
    have hnone : at? layer s f = none := at?_of_other (by simp [hs]) f
    rw [hnone, Option.none_or]
    simp only [at?, sectionAt, hget]
  | some x =>
    obtain ⟨mark, fs, rfl, hfields, hplain⟩ := hflat s x hs
    rw [hs] at hget
    rw [at?_of_get? hs]
    by_cases hb : ∃ mark' gs, get? base (.text s) = some (.map mark' gs)
    · obtain ⟨mark', gs, hb⟩ := hb
      rw [hb] at hget
      rw [at?_of_get? hget, at?_of_get? hb, get?_mergeEntries hfields]
      cases hf : get? fs (.text f) with
      | none => rfl
      | some z => exact congrArg some (override_of_plain (hplain f z hf) _)
    · have hother : ∀ mark' gs, get? base (.text s) ≠ some (.map mark' gs) :=
        fun mark' gs h => hb ⟨mark', gs, h⟩
      dsimp only at hget
      rw [override_of_other hother] at hget
      rw [at?_of_get? hget, at?_of_other hother, Option.or_none]

end Shared

end Handout
