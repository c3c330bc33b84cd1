import Handout.Text.Line

/-!
# Pages

A page is a list of lines that a text can have: each line ends at its only line feed, and only the
last one may lack it. `page_ofText` and `ofText_flatten` say that pages and texts are the same thing
seen twice, and `Page.sublist` that lines may be taken out of a page. What a variant keeps is such a
choice of lines, so it is a page again.

A text is **ended** when the next line of text starts a line of its own; the lines of an ended text
and of what follows it are those of the two texts (`ofText_append`).
-/

namespace Handout.Line

/-- **A page**: lines that end at their only line feed, the last of which may lack it. -/
inductive Page : List (List Char) → Prop
  | blank : Page []
  | last {w : List Char} (hne : w ≠ []) (hw : '\n' ∉ w) : Page [w]
  | line {w : List Char} {ls : List (List Char)} (hw : '\n' ∉ w) (h : Page ls) :
      Page ((w ++ ['\n']) :: ls)

/-- A text after which a new line starts: it is empty or ends with a line feed. -/
def Ended (text : List Char) : Prop :=
  text = [] ∨ text.getLast? = some '\n'

instance (text : List Char) : Decidable (Ended text) :=
  inferInstanceAs (Decidable (_ ∨ _))

/-- A text that is one line. -/
def Single (text : List Char) : Prop :=
  ofText text = [text]

instance (text : List Char) : Decidable (Single text) :=
  inferInstanceAs (Decidable (_ = _))

/-! ## Pages and texts -/

/-- The first line of a text runs through its first line feed. -/
theorem ofText_line {w : List Char} (hw : '\n' ∉ w) (text : List Char) :
    ofText (w ++ '\n' :: text) = (w ++ ['\n']) :: ofText text := by
  induction w with
  | nil => rfl
  | cons c w ih =>
    have hc := List.ne_of_not_mem_cons hw
    rw [List.cons_append, ofText, if_neg hc.symm, ih (List.not_mem_of_not_mem_cons hw)]
    rfl

/-- A text without a line feed is one line. -/
theorem ofText_last {w : List Char} (hne : w ≠ []) (hw : '\n' ∉ w) : ofText w = [w] := by
  induction w with
  | nil => exact absurd rfl hne
  | cons c w ih =>
    have hc := List.ne_of_not_mem_cons hw
    rw [ofText, if_neg hc.symm]
    cases w with
    | nil => rfl
    | cons d w => rw [ih (List.cons_ne_nil d w) (List.not_mem_of_not_mem_cons hw)]; rfl

/-- A character before a page lengthens its first line. -/
theorem Page.consFirst {c : Char} {ls : List (List Char)} (hc : c ≠ '\n') (h : Page ls) :
    Page (consFirst c ls) := by
  cases h with
  | blank => exact .last (List.cons_ne_nil c []) (by simpa using hc.symm)
  | last _ hw => exact .last (List.cons_ne_nil c _) (List.not_mem_cons_of_ne_of_not_mem hc.symm hw)
  | line hw h => exact .line (List.not_mem_cons_of_ne_of_not_mem hc.symm hw) h

/-- **The lines of a text are a page.** -/
theorem page_ofText (text : List Char) : Page (ofText text) := by
  induction text with
  | nil => exact .blank
  | cons c r ih =>
    rw [ofText]
    split
    · next hc => subst hc; exact .line (w := []) List.not_mem_nil ih
    · next hc => exact ih.consFirst hc

/-- **A page is the lines of its text.** -/
theorem ofText_flatten {ls : List (List Char)} (h : Page ls) : ofText ls.flatten = ls := by
  induction h with
  | blank => rfl
  | last hne hw => rw [List.flatten_singleton, ofText_last hne hw]
  | line hw _ ih =>
    rw [List.flatten_cons, List.append_assoc, List.singleton_append, ofText_line hw, ih]

/-- Pages are what texts are cut into. -/
theorem page_iff {ls : List (List Char)} : Page ls ↔ ofText ls.flatten = ls :=
  ⟨ofText_flatten, fun h => h ▸ page_ofText ls.flatten⟩

instance (ls : List (List Char)) : Decidable (Page ls) :=
  decidable_of_iff _ page_iff.symm

/-- **Lines taken out of a page leave a page.** -/
theorem Page.sublist {ls ms : List (List Char)} (h : Page ls) (hs : ms.Sublist ls) : Page ms := by
  induction h generalizing ms with
  | blank => rw [List.sublist_nil.mp hs]; exact .blank
  | last hne hw =>
    cases hs with
    | cons _ hs => rw [List.sublist_nil.mp hs]; exact .blank
    | cons_cons _ hs => rw [List.sublist_nil.mp hs]; exact .last hne hw
  | line hw _ ih =>
    cases hs with
    | cons _ hs => exact ih hs
    | cons_cons _ hs => exact .line hw (ih hs)

/-- A line of a page is not empty. -/
theorem Page.head_ne_nil {l : List Char} {ls : List (List Char)} (h : Page (l :: ls)) : l ≠ [] := by
  cases h with
  | last hne _ => exact hne
  | line _ _ => exact List.append_ne_nil_of_right_ne_nil _ (List.cons_ne_nil _ _)

/-- What follows the first line of a page is a page. -/
theorem Page.tail {l : List Char} {ls : List (List Char)} (h : Page (l :: ls)) : Page ls :=
  h.sublist (List.sublist_cons_self l ls)

/-! ## Lines at places -/

/-- **The lines at places of some kind**, in their order. The first line stands at place 0. -/
def pick (p : Nat → Prop) [DecidablePred p] (ls : List (List Char)) : List (List Char) :=
  (ls.zipIdx.filter fun x => p x.2).map Prod.fst

theorem pick_congr {p q : Nat → Prop} [DecidablePred p] [DecidablePred q] (h : ∀ k, p k ↔ q k)
    (ls : List (List Char)) : pick p ls = pick q ls := by
  simp only [pick, h]

theorem pick_cons (p : Nat → Prop) [DecidablePred p] (l : List Char) (ls : List (List Char)) :
    pick p (l :: ls) =
      if p 0 then l :: pick (fun k => p (k + 1)) ls else pick (fun k => p (k + 1)) ls := by
  have hrest : ((ls.zipIdx 1).filter fun x => p x.2).map Prod.fst =
      pick (fun k => p (k + 1)) ls := by
    rw [List.zipIdx_succ, List.filter_map, List.map_map]
    rfl
  rw [pick, List.zipIdx_cons, List.filter_cons]
  split
  · next h => rw [if_pos (of_decide_eq_true h), List.map_cons, hrest]
  · next h => rw [if_neg (mt decide_eq_true h), hrest]

theorem pick_map (f : List Char → List Char) (p : Nat → Prop) [DecidablePred p]
    (ls : List (List Char)) : (pick p ls).map f = pick p (ls.map f) := by
  rw [pick, pick, List.zipIdx_map, List.filter_map, List.map_map, List.map_map]
  rfl

/-- **Lines taken out of some lines** are those at some places. -/
theorem exists_pick {ls ms : List (List Char)} (h : ms.Sublist ls) :
    ∃ places : Nat → Bool, ms = pick (fun k => places k = true) ls := by
  induction h with
  | slnil => exact ⟨fun _ => false, rfl⟩
  | cons l _ ih =>
    obtain ⟨places, rfl⟩ := ih
    refine ⟨fun k => Nat.casesOn k false places, ?_⟩
    rw [pick_cons]
    rfl
  | cons_cons l _ ih =>
    obtain ⟨places, rfl⟩ := ih
    refine ⟨fun k => Nat.casesOn k true places, ?_⟩
    rw [pick_cons]
    rfl

/-! ## Ended texts -/

/-- A text without a line feed is not ended, unless it is empty. -/
theorem not_ended {w : List Char} (hne : w ≠ []) (hw : '\n' ∉ w) : ¬ Ended w
  | .inl h => hne h
  | .inr h => hw (List.mem_of_getLast? h)

/-- What follows a line feed in an ended text is ended. -/
theorem Ended.of_line {w text : List Char} (h : Ended (w ++ '\n' :: text)) : Ended text := by
  rcases h with h | h
  · simp at h
  · cases text with
    | nil => exact .inl rfl
    | cons c r =>
      rw [List.getLast?_append, List.getLast?_cons_cons] at h
      refine .inr ?_
      cases hl : (c :: r).getLast? with
      | none => simp at hl
      | some d => rw [hl] at h; exact h

/-- The lines of an ended page and of what follows it. -/
theorem Page.ofText_flatten_append {ls : List (List Char)} (h : Page ls) (he : Ended ls.flatten)
    (b : List Char) : ofText (ls.flatten ++ b) = ls ++ ofText b := by
  induction h with
  | blank => rfl
  | last hne hw =>
    rw [List.flatten_singleton] at he
    exact absurd he (not_ended hne hw)
  | line hw _ ih =>
    rw [List.flatten_cons, List.append_assoc, List.singleton_append] at he
    rw [List.flatten_cons, List.append_assoc, List.append_assoc, List.singleton_append,
      ofText_line hw, ih he.of_line, List.cons_append]

/-- **Lines of texts one after the other**, where the first one is ended. -/
theorem ofText_append {a : List Char} (ha : Ended a) (b : List Char) :
    ofText (a ++ b) = ofText a ++ ofText b := by
  have h := (page_ofText a).ofText_flatten_append (by rwa [flatten_ofText]) b
  rwa [flatten_ofText] at h

end Handout.Line
