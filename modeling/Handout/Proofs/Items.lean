import Handout.Data.Comma
import Handout.Proofs.Roots

/-!
# Items between commas

A list of texts can be written as one text, and in many ways: blanks may stand around an item, and pieces
of blanks alone anywhere between the commas. `Spaced` is the relation between the items and the pieces
that they are written in.

**The law** (`split_eq_iff_written`): what is read from a text is the one list of items that the text is so
written from. So only items are read, a list of items joined by commas is read back, and no way to write it
adds, drops, divides, joins or moves an item (`split_round_trip`).

Two facts carry the law. Joined pieces are read one by one (`split_intercalate`). And a piece without a
comma is blanks, or one item between blanks (`piece_cases`), since a trimmed text is what stands between
blanks and has none at its ends (`Blank.exists_trim`, `Blank.tight_trim`).

**What it does not establish.** No text can be written that is not an item: nothing quotes a comma or a
blank (`split_intercalate_eq_self_iff`).
-/

namespace Handout

namespace Blank

variable {text before core after : List Char}

/-- A text of blanks alone. -/
def All (text : List Char) : Prop :=
  ∀ c ∈ text, holds c = true

-- by name, here and below: where characters are known to be finitely many, a search finds the instance
-- that goes through all of them
instance (text : List Char) : Decidable (All text) :=
  List.decidableBAll _ text

/-- **A text without a blank at its start and its end.** The empty text is one. -/
def Tight (text : List Char) : Prop :=
  (∀ c ∈ text.head?, holds c = false) ∧ ∀ c ∈ text.getLast?, holds c = false

instance (text : List Char) : Decidable (Tight text) :=
  @instDecidableAnd _ _ (Option.decidableForallMem _) (Option.decidableForallMem _)

/-! ## Trimmed texts -/

/-- Nothing is dropped before a character that is no blank. -/
theorem dropWhile_of_head? (h : ∀ c ∈ text.head?, holds c = false) : text.dropWhile holds = text := by
  cases text with
  | nil => rfl
  | cons c r => exact List.dropWhile_cons_of_neg (ne_true_of_eq_false (h c rfl))

/-- What is left by dropping does not start with a blank. -/
theorem head?_dropWhile (text : List Char) : ∀ c ∈ (text.dropWhile holds).head?, holds c = false := by
  intro c hc
  have hstop := List.head?_dropWhile_not holds text
  rwa [hc] at hstop

theorem all_takeWhile (text : List Char) : All (text.takeWhile holds) :=
  fun _ hc => List.all_eq_true.mp List.all_takeWhile _ hc

/-- Blanks after a text without one at its end are dropped, and nothing else. -/
theorem dropWhile_reverse_append (hcore : ∀ c ∈ core.getLast?, holds c = false) (hafter : All after) :
    ((core ++ after).reverse.dropWhile holds).reverse = core := by
  rw [List.reverse_append, List.dropWhile_append_of_pos fun c hc => hafter c (List.mem_reverse.mp hc),
    dropWhile_of_head? (List.head?_reverse ▸ hcore), List.reverse_reverse]

/-- **Blanks around a text are trimmed**, and nothing else. -/
theorem trim_padded (hcore : Tight core) (hbefore : All before) (hafter : All after) :
    trim (before ++ core ++ after) = core := by
  rw [trim, List.append_assoc, List.dropWhile_append_of_pos hbefore]
  cases core with
  | nil =>
    -- all of the text is blank, so the first dropping leaves nothing to the second one
    have hnone : after.dropWhile holds = [] := by
      rw [← List.append_nil after, List.dropWhile_append_of_pos hafter, List.dropWhile_nil]
    rw [List.nil_append, hnone]
    rfl
  | cons c r =>
    have hkept : (c :: r ++ after).dropWhile holds = c :: r ++ after := dropWhile_of_head? hcore.1
    rw [hkept, dropWhile_reverse_append hcore.2 hafter]

/-- A text of blanks alone is trimmed to nothing. -/
theorem trim_of_all (h : All text) : trim text = [] := by
  have htight : Tight [] := ⟨nofun, nofun⟩
  have hnone : All [] := nofun
  have htrim := trim_padded htight h hnone
  rwa [List.append_nil, List.append_nil] at htrim

/-- The first dropping leaves the trimmed text and the blanks after it. -/
theorem exists_dropWhile_eq (text : List Char) :
    ∃ after, All after ∧ text.dropWhile holds = trim text ++ after := by
  refine ⟨((text.dropWhile holds).reverse.takeWhile holds).reverse, ?_, ?_⟩
  · exact fun c hc => all_takeWhile _ c (List.mem_reverse.mp hc)
  · rw [trim, ← List.reverse_append, List.takeWhile_append_dropWhile, List.reverse_reverse]

/-- There is no blank at the ends of a trimmed text. -/
theorem tight_trim (text : List Char) : Tight (trim text) := by
  constructor
  · intro c hc
    obtain ⟨after, -, hdrop⟩ := exists_dropWhile_eq text
    refine head?_dropWhile text c ?_
    rw [hdrop, List.head?_append, hc]
    rfl
  · rw [trim, List.getLast?_reverse]
    exact head?_dropWhile _

/-- **A text is its trimmed text between blanks.** -/
theorem exists_trim (text : List Char) :
    ∃ before after, All before ∧ All after ∧ text = before ++ trim text ++ after := by
  obtain ⟨after, hafter, hdrop⟩ := exists_dropWhile_eq text
  refine ⟨text.takeWhile holds, after, all_takeWhile text, hafter, ?_⟩
  rw [List.append_assoc, ← hdrop, List.takeWhile_append_dropWhile]

end Blank

namespace Comma

variable {i piece before after text : String} {items pieces : List String}

/-- **An item**: a text with something in it, without a comma, and without a blank at its ends. -/
structure IsItem (i : String) : Prop where
  nonempty : i ≠ ""
  whole : ',' ∉ i.toList
  tight : Blank.Tight i.toList

instance (i : String) : Decidable (IsItem i) :=
  decidable_of_iff (i ≠ "" ∧ ',' ∉ i.toList ∧ Blank.Tight i.toList)
    ⟨fun h => ⟨h.1, h.2.1, h.2.2⟩, fun h => ⟨h.nonempty, h.whole, h.tight⟩⟩

/-- **The pieces that items are written in**, in order: each item between blanks of any number, and pieces
of blanks alone anywhere. -/
inductive Spaced : List String → List String → Prop
  | none : Spaced [] []
  | item {i before after : String} {items pieces : List String} (hbefore : Blank.All before.toList)
      (hafter : Blank.All after.toList) (h : Spaced items pieces) :
      Spaced (i :: items) ((before ++ i ++ after) :: pieces)
  | blank {b : String} {items pieces : List String} (hb : Blank.All b.toList)
      (h : Spaced items pieces) : Spaced items (b :: pieces)

/-- **Items written in a text**: the text is pieces that they are written in, with commas between. -/
def Written (items : List String) (text : String) : Prop :=
  (∀ i ∈ items, IsItem i) ∧ ∃ pieces, Spaced items pieces ∧ ",".intercalate pieces = text

/-! ## Pieces -/

/-- A text and what follows a comma after it have the items of both. -/
theorem split_append (s t : String) : split (s ++ "," ++ t) = split s ++ split t := by
  have hcomma : (s ++ "," ++ t).toList = s.toList ++ ',' :: t.toList := by simp
  rw [split, Comma.items, hcomma, List.splitOn_append_cons_self, List.map_append, List.filter_append,
    List.map_append]
  rfl

/-- **Joined pieces are read one by one.** -/
theorem split_intercalate (pieces : List String) :
    split (",".intercalate pieces) = pieces.flatMap split := by
  induction pieces with
  | nil => rfl
  | cons p r ih =>
    cases r with
    | nil => rw [String.intercalate_singleton, List.flatMap_singleton]
    | cons q r => rw [String.intercalate_cons_cons, split_append, List.flatMap_cons, ih]

/-- Every text is pieces without a comma, with commas between. -/
theorem exists_pieces (text : String) :
    ∃ pieces, (∀ p ∈ pieces, ',' ∉ p.toList) ∧ ",".intercalate pieces = text := by
  refine ⟨(text.toList.splitOn ',').map String.ofList, ?_, ?_⟩
  · intro p hp
    obtain ⟨cs, hcs, rfl⟩ := List.mem_map.mp hp
    rw [String.toList_ofList]
    exact not_mem_of_mem_splitOn hcs
  · have hcomma : ",".toList = [','] := rfl
    have hsame : String.toList ∘ String.ofList = id := funext fun _ => String.toList_ofList
    rw [← String.toList_inj, String.toList_intercalate, hcomma, List.map_map, hsame, List.map_id,
      List.intercalate_splitOn]

/-- The item of a piece without a comma is its trimmed text, if there is any. -/
theorem split_of_whole (h : ',' ∉ piece.toList) :
    split piece =
      if Blank.trim piece.toList = [] then [] else [String.ofList (Blank.trim piece.toList)] := by
  rw [split, Comma.items, List.splitOn_eq_singleton h, List.map_singleton]
  by_cases hnone : Blank.trim piece.toList = [] <;> simp [hnone]

/-- A comma is no blank. -/
theorem not_mem_of_all {text : List Char} (h : Blank.All text) : ',' ∉ text :=
  fun hc => Bool.false_ne_true (h ',' hc)

/-- An item between blanks is read as the item. -/
theorem split_padded (hi : IsItem i) (hbefore : Blank.All before.toList)
    (hafter : Blank.All after.toList) : split (before ++ i ++ after) = [i] := by
  have hchars : (before ++ i ++ after).toList = before.toList ++ i.toList ++ after.toList := by simp
  have hwhole : ',' ∉ (before ++ i ++ after).toList := by
    rw [hchars, List.mem_append, List.mem_append, not_or, not_or]
    exact ⟨⟨not_mem_of_all hbefore, hi.whole⟩, not_mem_of_all hafter⟩
  have hne : i.toList ≠ [] := mt String.toList_eq_nil_iff.mp hi.nonempty
  rw [split_of_whole hwhole, hchars, Blank.trim_padded hi.tight hbefore hafter, if_neg hne,
    String.ofList_toList]

/-- In blanks there is no item. -/
theorem split_blank (h : Blank.All piece.toList) : split piece = [] := by
  rw [split_of_whole (not_mem_of_all h), if_pos (Blank.trim_of_all h)]

/-- **A piece without a comma** is blanks, or one item between blanks. -/
theorem piece_cases (h : ',' ∉ piece.toList) :
    Blank.All piece.toList ∨ ∃ before i after, IsItem i ∧ Blank.All before.toList ∧
      Blank.All after.toList ∧ piece = before ++ i ++ after := by
  obtain ⟨before, after, hbefore, hafter, hpiece⟩ := Blank.exists_trim piece.toList
  by_cases hnone : Blank.trim piece.toList = []
  · rw [hnone, List.append_nil] at hpiece
    rw [hpiece]
    exact .inl fun c hc => (List.mem_append.mp hc).elim (hbefore c) (hafter c)
  · have hitem : IsItem (.ofList (Blank.trim piece.toList)) := by
      refine ⟨mt String.ofList_eq_empty_iff.mp hnone, ?_, ?_⟩ <;> rw [String.toList_ofList]
      · rw [hpiece] at h
        exact fun hc => h (List.mem_append_left _ (List.mem_append_right _ hc))
      · exact Blank.tight_trim _
    refine .inr ⟨.ofList before, _, .ofList after, hitem, ?_, ?_, ?_⟩
    · rwa [String.toList_ofList]
    · rwa [String.toList_ofList]
    · rw [← String.ofList_append, ← String.ofList_append, ← hpiece, String.ofList_toList]

/-! ## Items and pieces -/

/-- Pieces are read as the items that are written in them. -/
theorem Spaced.flatMap_split (h : Spaced items pieces) (hitems : ∀ i ∈ items, IsItem i) :
    pieces.flatMap split = items := by
  induction h with
  | none => rfl
  | item hbefore hafter _ ih =>
    obtain ⟨hi, hitems⟩ := List.forall_mem_cons.mp hitems
    rw [List.flatMap_cons, split_padded hi hbefore hafter, ih hitems, List.singleton_append]
  | blank hb _ ih => rw [List.flatMap_cons, split_blank hb, ih hitems, List.nil_append]

/-- What is read from pieces without a comma is items, and they are written in these pieces. -/
theorem spaced_flatMap_split (h : ∀ p ∈ pieces, ',' ∉ p.toList) :
    (∀ i ∈ pieces.flatMap split, IsItem i) ∧ Spaced (pieces.flatMap split) pieces := by
  induction pieces with
  | nil => exact ⟨nofun, .none⟩
  | cons p r ih =>
    obtain ⟨hp, hr⟩ := List.forall_mem_cons.mp h
    obtain ⟨hitems, hspaced⟩ := ih hr
    rw [List.flatMap_cons]
    rcases piece_cases hp with hblank | ⟨before, i, after, hi, hbefore, hafter, rfl⟩
    · rw [split_blank hblank, List.nil_append]
      exact ⟨hitems, .blank hblank hspaced⟩
    · rw [split_padded hi hbefore hafter, List.singleton_append]
      exact ⟨List.forall_mem_cons.mpr ⟨hi, hitems⟩, .item hbefore hafter hspaced⟩

/-- Items are written in themselves. -/
theorem spaced_self (items : List String) : Spaced items items := by
  induction items with
  | nil => exact .none
  | cons i r ih =>
    have hempty : Blank.All "".toList := nofun
    have hsame : "" ++ i ++ "" = i := by rw [String.empty_append, String.append_empty]
    have hspaced : Spaced (i :: r) (("" ++ i ++ "") :: r) := .item hempty hempty ih
    rwa [hsame] at hspaced

/-- **What is read from a text** is the one list of items that the text is written from. -/
theorem split_eq_iff_written : split text = items ↔ Written items text := by
  constructor
  · rintro rfl
    obtain ⟨pieces, hwhole, rfl⟩ := exists_pieces text
    rw [split_intercalate]
    obtain ⟨hitems, hspaced⟩ := spaced_flatMap_split hwhole
    exact ⟨hitems, pieces, hspaced, rfl⟩
  · rintro ⟨hitems, pieces, hspaced, rfl⟩
    rw [split_intercalate, hspaced.flatMap_split hitems]

/-- A list that is joined by commas is read back just when every text in it is an item. -/
theorem split_intercalate_eq_self_iff :
    split (",".intercalate items) = items ↔ ∀ i ∈ items, IsItem i := by
  constructor
  · intro h
    exact (split_eq_iff_written.mp h).1
  · intro hitems
    exact split_eq_iff_written.mpr ⟨hitems, items, spaced_self items, rfl⟩

/-- **Texts to items and back.** What is read from a text is items, and joined by commas they are read back
as they are. And items are read back from every way to write them, with blanks around each and blank pieces
put in anywhere. -/
theorem split_round_trip :
    (∀ text, (∀ i ∈ split text, IsItem i) ∧ split (",".intercalate (split text)) = split text) ∧
      ∀ items pieces, (∀ i ∈ items, IsItem i) → Spaced items pieces →
        split (",".intercalate pieces) = items := by
  constructor
  · intro text
    obtain ⟨hitems, -⟩ := split_eq_iff_written.mp (Eq.refl (split text))
    exact ⟨hitems, split_intercalate_eq_self_iff.mpr hitems⟩
  · intro items pieces hitems hspaced
    exact split_eq_iff_written.mpr ⟨hitems, pieces, hspaced, rfl⟩

theorem split_round_trip_odd_blanks :
    (∀ i ∈ ["a b", "\u200b"], IsItem i) ∧
      Spaced ["a b", "\u200b"]
        ["", "\u2003\t" ++ "a b" ++ "\u001f", " \u00a0", "" ++ "\u200b" ++ "\u3000"] ∧
      split ",\u2003\ta b\u001f, \u00a0,\u200b\u3000" = ["a b", "\u200b"] := by
  have hitems : ∀ i ∈ ["a b", "\u200b"], IsItem i := by decide
  have hspaced : Spaced ["a b", "\u200b"]
      ["", "\u2003\t" ++ "a b" ++ "\u001f", " \u00a0", "" ++ "\u200b" ++ "\u3000"] := by
    refine .blank ?_ (.item ?_ ?_ (.blank ?_ (.item ?_ ?_ .none))) <;> decide
  have htext : ",\u2003\ta b\u001f, \u00a0,\u200b\u3000" =
      ",".intercalate ["", "\u2003\t" ++ "a b" ++ "\u001f", " \u00a0", "" ++ "\u200b" ++ "\u3000"] := by
    decide
  rw [htext]
  exact ⟨hitems, hspaced, split_round_trip.2 _ _ hitems hspaced⟩

end Comma

end Handout
