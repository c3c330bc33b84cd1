import Handout.Proofs.Acts
import Handout.Proofs.Sharing

/-!
# Values of documents

A key stands once in a mapping of a document, at every depth (`Shared.Tidy`). The entries of a
mapping are put one after the other, so that its keys are told apart (`nodup_ofPairs`); the proof that
the same holds of all the values in it follows the nodes, through the entries that merge keys bring
in.
-/

namespace Handout

namespace Shared

/-- A value in which every mapping has a text for a key at most once. -/
inductive Tidy : Shared → Prop
  | map {mark : Option Mark} {es : Entries} (hkeys : (textKeys es).Nodup)
      (hvalues : ∀ e ∈ es, Tidy e.2) : Tidy (.map mark es)
  | other {x : Shared} (h : x.data.isMap = false) : Tidy x

variable {es : Entries} {k : Data} {v : Shared}

theorem Tidy.keys {mark : Option Mark} (h : Tidy (.map mark es)) : (textKeys es).Nodup := by
  cases h with
  | map hkeys hvalues => exact hkeys
  | other h => cases h

theorem Tidy.value {mark : Option Mark} (h : Tidy (.map mark es)) : ∀ e ∈ es, Tidy e.2 := by
  cases h with
  | map hkeys hvalues => exact hvalues
  | other h => cases h

theorem Tidy.of_get? {mark : Option Mark} (h : Tidy (.map mark es)) (hv : get? es k = some v) :
    Tidy v := by
  obtain ⟨e, he, rfl⟩ := Option.map_eq_some_iff.mp hv
  exact h.value e (List.mem_of_find?_eq_some he)

/-! ## Keys that are told apart -/

theorem mem_put {e : Data × Shared} (h : e ∈ put es k v) : e ∈ es ∨ e.2 = v := by
  induction es with
  | nil => exact .inr (List.mem_singleton.mp h ▸ rfl)
  | cons a r ih =>
    obtain ⟨k', x⟩ := a
    rw [put] at h
    split at h
    · rcases List.mem_cons.mp h with rfl | h
      · exact .inr rfl
      · exact .inl (List.mem_cons_of_mem _ h)
    · rcases List.mem_cons.mp h with rfl | h
      · exact .inl List.mem_cons_self
      · exact (ih h).imp_left (List.mem_cons_of_mem _)

/-- A key that is put is there already, or it comes last. -/
theorem keys_put (es : Entries) (k : Data) (v : Shared) :
    (put es k v).map Prod.fst = es.map Prod.fst ∨
      ((∀ e ∈ es, e.1.sameKey k = false) ∧ (put es k v).map Prod.fst = es.map Prod.fst ++ [k]) := by
  induction es with
  | nil => exact .inr ⟨fun e he => absurd he List.not_mem_nil, rfl⟩
  | cons e r ih =>
    obtain ⟨k', x⟩ := e
    rw [put]
    cases hsame : k'.sameKey k with
    | true => exact .inl rfl
    | false =>
      rcases ih with hkeys | ⟨hnew, hkeys⟩
      · exact .inl (congrArg (k' :: ·) hkeys)
      · exact .inr ⟨List.forall_mem_cons.mpr ⟨hsame, hnew⟩, congrArg (k' :: ·) hkeys⟩

theorem textKeys_eq (es : Entries) : textKeys es = (es.map Prod.fst).filterMap Data.text? := by
  rw [List.filterMap_map]
  rfl

theorem nodup_put (h : (textKeys es).Nodup) : (textKeys (put es k v)).Nodup := by
  rw [textKeys_eq] at h ⊢
  rcases keys_put es k v with hkeys | ⟨hnew, hkeys⟩
  · rwa [hkeys]
  · rw [hkeys, List.filterMap_append]
    cases hk : k.text? with
    | none => simpa [hk] using h
    | some t =>
      have ht : t ∉ (es.map Prod.fst).filterMap Data.text? := by
        intro ht
        obtain ⟨k', hk', hkt⟩ := List.mem_filterMap.mp ht
        obtain ⟨e, he, rfl⟩ := List.mem_map.mp hk'
        have hsame := hnew e he
        rw [Data.text?_eq_some.mp hkt, Data.text_sameKey_iff.mpr hk] at hsame
        cases hsame
      rw [List.filterMap_cons_some hk, List.filterMap_nil]
      exact List.nodup_append.mpr ⟨h, List.pairwise_singleton _ t, fun a ha b hb hab =>
        ht (List.mem_singleton.mp hb ▸ hab ▸ ha)⟩

/-- **Entries put one after the other** have keys that are told apart, and no value that was not
put. -/
theorem tidy_ofPairs {mark : Option Mark} {pairs : Entries} (h : ∀ e ∈ pairs, Tidy e.2) :
    Tidy (.map mark (ofPairs pairs)) := by
  have hfold : ∀ (rest es : Entries), (∀ e ∈ rest, Tidy e.2) → Tidy (.map mark es) →
      Tidy (.map mark (rest.foldl (fun es e => put es e.1 e.2) es)) := by
    intro rest
    induction rest with
    | nil => exact fun es _ hes => hes
    | cons e r ih =>
      intro es hrest hes
      obtain ⟨he, hr⟩ := List.forall_mem_cons.mp hrest
      refine ih _ hr (.map (nodup_put hes.keys) fun a ha => ?_)
      rcases mem_put ha with ha | ha
      · exact hes.value a ha
      · exact ha ▸ he
  exact hfold pairs [] h (.map List.nodup_nil fun e he => absurd he List.not_mem_nil)

end Shared

namespace Yaml

/-! ## Values that may be faults -/

namespace Rounds

variable {α β γ : Type} {P : α → Prop} {Q : β → Prop} {R : γ → Prop} {x : Rounds α} {y : Rounds β}

/-- A value, where it is none that is at fault, has a property. -/
def Gives (P : α → Prop) (x : Rounds α) : Prop :=
  ∀ a, x = .ok a → P a

theorem Gives.both {f : α → β → γ} (hx : Gives P x) (hy : Gives Q y)
    (hf : ∀ a b, P a → Q b → R (f a b)) : Gives R (Rounds.both f x y) := by
  intro c hc
  match x, y with
  | .ok a, .ok b => exact Except.ok.inj hc ▸ hf a b (hx a rfl) (hy b rfl)
  | .ok a, .error e => cases hc
  | .error e, .ok b => cases hc
  | .error (m, e), .error (n, g) =>
    rw [Rounds.both] at hc
    split at hc <;> cases hc

theorem Gives.all {xs : List (Rounds α)} (h : ∀ x ∈ xs, Gives P x) :
    Gives (fun as => ∀ a ∈ as, P a) (Rounds.all xs) := by
  induction xs with
  | nil => exact fun as has => Except.ok.inj has ▸ fun a ha => absurd ha List.not_mem_nil
  | cons x xs ih =>
    obtain ⟨hx, hxs⟩ := List.forall_mem_cons.mp h
    exact hx.both (ih hxs) fun a as ha has => List.forall_mem_cons.mpr ⟨ha, has⟩

theorem Gives.map {f : α → β} (hx : Gives P x) (hf : ∀ a, P a → Q (f a)) : Gives Q (x.map f) := by
  intro b hb
  cases x with
  | error e => cases hb
  | ok a => exact Except.ok.inj hb ▸ hf a (hx a rfl)

theorem Gives.later (hx : Gives P x) : Gives P (Rounds.later x) := by
  intro a ha
  cases x with
  | error e => cases ha
  | ok b => exact hx a ha

theorem gives_now {r : Except Fault α} (h : ∀ a, r = .ok a → P a) : Gives P (now r) := by
  intro a ha
  cases r with
  | error e => cases ha
  | ok b => exact h a (congrArg Except.ok (Except.ok.inj ha))

theorem gives_error (e : Nat × Fault) : Gives P (.error e) :=
  fun _ h => nomatch h

end Rounds

/-! ## Values of nodes -/

open Shared Rounds

theorem isMap_moment {t : List Char} {d : Data} (h : Typed.moment t = .ok d) :
    d.isMap = false := by
  rw [Typed.moment] at h
  split at h
  · cases h
  · have hmake {α : Type} {x : Except CalendarFault α} {f : α → Data} (hf : ∀ a, (f a).isMap = false)
        (h : (x.map f).mapError Fault.calendar = .ok d) : d.isMap = false := by
      cases x with
      | error e => cases h
      | ok a => exact Except.ok.inj h ▸ hf a
    split at h
    · exact hmake (fun _ => rfl) h
    · exact hmake (fun _ => rfl) h

theorem isMap_read {k : Kind} {t : List Char} {d : Data} (h : k.read t = .ok d) :
    d.isMap = false := by
  cases k with
  | null => cases h; rfl
  | text => cases h; rfl
  | switch => obtain ⟨b, -, rfl⟩ := Except.map_eq_ok.mp h; rfl
  | integer => obtain ⟨n, -, rfl⟩ := Except.map_eq_ok.mp h; rfl
  | fraction => obtain ⟨x, -, rfl⟩ := Except.map_eq_ok.mp h; rfl
  | bytes =>
    rw [Kind.read] at h
    split at h <;> cases h
    rfl
  | moment => exact isMap_moment h
  | list | map | set | pairs | merge | value | unknown => cases h

namespace Node

/-- Entries whose values, where they are at no fault, are tidy. -/
def TidyEntries (es : Entries) : Prop :=
  ∀ e ∈ es, Gives (fun e => Tidy e.2) e

theorem tidy_scalar (k : Kind) (t : List Char) : Gives Tidy (.now ((k.read t).map .ofData)) := by
  refine gives_now fun x hx => ?_
  obtain ⟨d, hd, rfl⟩ := Except.map_eq_ok.mp hx
  exact .other (by rw [data_ofData, isMap_read hd])

theorem tidy_ofItems (k : Kind) (xs : List (Rounds Shared)) (pairs : Entries) :
    Gives Tidy (ofItems k xs pairs) := by
  have hany {α : Type} (x : Rounds α) : Gives (fun _ => True) x := fun _ _ => trivial
  cases k with
  | list => exact ((hany _).map fun xs _ => .other rfl).later
  | pairs => exact ((hany _).map fun es _ => .other rfl).later
  | _ => exact gives_error _

theorem tidy_ofEntries (mark : Mark) (k : Kind) {es : Option Entries}
    (h : ∀ es', es = some es' → TidyEntries es') : Gives Tidy (ofEntries mark k es) := by
  cases es with
  | none => cases k <;> exact gives_error _
  | some es =>
    have hall := Gives.all (h es rfl)
    cases k with
    | map => exact (hall.map fun es hes => tidy_ofPairs hes).later
    | set => exact (hall.map fun es _ => .other rfl).later
    | _ => exact gives_error _

theorem TidyEntries.append {es es' : Entries} (h : TidyEntries es) (h' : TidyEntries es') :
    TidyEntries (es ++ es') :=
  fun e he => (List.mem_append.mp he).elim (h e) (h' e)

theorem tidyEntries_nil : TidyEntries [] :=
  fun _ he => absurd he List.not_mem_nil

theorem tidy_joined {parts : Option (Entries × Entries)}
    (h : ∀ p, parts = some p → TidyEntries p.1 ∧ TidyEntries p.2) :
    ∀ es, joined parts = some es → TidyEntries es := by
  intro es hes
  obtain ⟨p, hp, rfl⟩ := Option.map_eq_some_iff.mp hes
  exact (h p hp).1.append (h p hp).2

theorem tidy_entry {key : Node} {k : Rounds Data} {v : Rounds Shared} (hv : Gives Tidy v) :
    Gives (fun e => Tidy e.2) (entry key k v) := by
  rw [entry]
  split
  · exact gives_error _
  · exact Gives.both (P := fun _ => True) (fun _ _ => trivial) hv fun _ _ _ h => h

mutual

/-- **The value of a node is tidy.** -/
theorem tidy_value : ∀ x : Node, Gives Tidy x.value
  | .scalar k t => by
    rw [value]
    split
    · exact gives_error _
    · exact tidy_scalar k t
  | .sequence k xs => tidy_ofItems k _ _
  | .mapping mark k es => by
    rw [value]
    split
    · exact tidy_ofEntries mark k (tidy_joined (tidy_split es))
    · split
      · exact tidy_scalar k _
      · exact gives_error _

theorem tidy_split : ∀ (es : List (Node × Node)) (p : Entries × Entries), split es = some p →
    TidyEntries p.1 ∧ TidyEntries p.2
  | [], p, h => by
    cases h
    exact ⟨tidyEntries_nil, tidyEntries_nil⟩
  | (k, v) :: r, p, h => by
    rw [split] at h
    obtain ⟨⟨merged, own⟩, hr, h⟩ := Option.bind_eq_some_iff.mp h
    obtain ⟨hmerged, hown⟩ := tidy_split r _ hr
    dsimp only at h
    split at h
    · obtain ⟨brought, hbrought, h⟩ := Option.bind_eq_some_iff.mp h
      cases h
      exact ⟨(tidy_toMerge v brought hbrought).append hmerged, hown⟩
    · cases h
      exact ⟨hmerged, List.forall_mem_cons.mpr ⟨tidy_entry (tidy_value v), hown⟩⟩

theorem tidy_toMerge : ∀ (x : Node) (parts : Entries), toMerge x = some parts → TidyEntries parts
  | .mapping _ _ es, parts, h => tidy_joined (tidy_split es) parts h
  | .sequence _ xs, parts, h => tidy_toMergeAll xs parts h
  | .scalar _ _, _, h => nomatch h

theorem tidy_toMergeAll : ∀ (xs : List Node) (parts : Entries), toMergeAll xs = some parts →
    TidyEntries parts
  | [], parts, h => by
    cases h
    exact tidyEntries_nil
  | x :: xs, parts, h => by
    rw [toMergeAll] at h
    obtain ⟨rest, hrest, h⟩ := Option.bind_eq_some_iff.mp h
    match x with
    | .mapping _ _ es =>
      obtain ⟨own, hown, h⟩ := Option.bind_eq_some_iff.mp h
      cases h
      exact (tidy_toMergeAll xs rest hrest).append (tidy_joined (tidy_split es) own hown)
    | .scalar _ _ => cases h
    | .sequence _ _ => cases h

end

end Node

/-- **The value of a document is tidy.** -/
theorem tidy_document {file : String} {text : List Char} {x : Shared}
    (h : document file text = .ok x) : Tidy x := by
  rw [document] at h
  split at h
  · cases h
  · obtain ⟨ts, -, h⟩ := Except.bind_eq_ok.mp h
    obtain ⟨node?, -, h⟩ := Except.bind_eq_ok.mp h
    match node? with
    | none =>
      cases h
      exact .other rfl
    | some node => exact Node.tidy_value node x (Except.mapError_eq_ok.mp h)

end Yaml

end Handout
