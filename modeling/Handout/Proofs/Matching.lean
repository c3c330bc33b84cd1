import Handout.Pattern
import Handout.Proofs.Page

/-!
# Laws of matching

A match is the first end of an ordered list, so a sequence looks for the first end of its first part
that the second part can go on from (`rest?_seq`): that search is what giving up a choice means.
When the second part gives the same answer from every end, or none, the search is a test
(`findSome?_ite`), and the order of the ends no longer matters.

A pattern is **anchored** when it matches at the start of a line only. An anchored pattern that does
not match at a line passes over it whole (`spansFrom_pass`).

`Span.cut` is a text without the characters that stand in given stretches, and `erase_eq_cut` says
that what a pattern leaves of a text is the text with its matches cut out.
-/

namespace Handout

/-! ## Stretches of a text -/

namespace Span

/-- Whether a stretch takes the character at a place. -/
def covers (s : Nat × Nat) (i : Nat) : Bool :=
  s.1 ≤ i && i < s.2

/-- What is left of a text that begins at a place, once stretches are cut out. -/
def cutFrom (spans : List (Nat × Nat)) : Nat → List Char → List Char
  | _, [] => []
  | i, c :: r =>
    if spans.any (covers · i) then cutFrom spans (i + 1) r else c :: cutFrom spans (i + 1) r

/-- **A text with stretches cut out.** -/
def cut (spans : List (Nat × Nat)) (text : List Char) : List Char :=
  cutFrom spans 0 text

/-- A stretch that is passed takes nothing. -/
theorem cutFrom_past {s : Nat × Nat} {spans : List (Nat × Nat)} {i : Nat} (h : s.2 ≤ i)
    (text : List Char) : cutFrom (s :: spans) i text = cutFrom spans i text := by
  induction text generalizing i with
  | nil => rfl
  | cons c r ih =>
    have hs : covers s i = false := by
      simp only [covers, Bool.and_eq_false_iff, decide_eq_false_iff_not]
      omega
    simp only [cutFrom, List.any_cons, hs, Bool.false_or, ih (Nat.le_succ_of_le h)]

/-- Characters within a stretch go. -/
theorem cutFrom_inside {s : Nat × Nat} {spans : List (Nat × Nat)} (hs : s ∈ spans) {i : Nat}
    {l : List Char} (hi : s.1 ≤ i) (hl : i + l.length ≤ s.2) (r : List Char) :
    cutFrom spans i (l ++ r) = cutFrom spans (i + l.length) r := by
  induction l generalizing i with
  | nil => rfl
  | cons c l ih =>
    rw [List.length_cons] at hl ⊢
    have hi : covers s i = true := by
      simp only [covers, Bool.and_eq_true, decide_eq_true_eq]
      omega
    have hc : spans.any (covers · i) = true := List.any_eq_true.mpr ⟨s, hs, hi⟩
    rw [List.cons_append, cutFrom, if_pos hc, ih (by omega) (by omega)]
    congr 1
    omega

/-- Characters before every stretch stay. -/
theorem cutFrom_outside {spans : List (Nat × Nat)} {i : Nat} {l : List Char}
    (h : ∀ s ∈ spans, i + l.length ≤ s.1) (r : List Char) :
    cutFrom spans i (l ++ r) = l ++ cutFrom spans (i + l.length) r := by
  induction l generalizing i with
  | nil => rfl
  | cons c l ih =>
    rw [List.length_cons] at h ⊢
    have hc : ¬ spans.any (covers · i) = true := by
      intro hc
      obtain ⟨s, hs, hi⟩ := List.any_eq_true.mp hc
      simp only [covers, Bool.and_eq_true, decide_eq_true_eq] at hi
      have := h s hs
      omega
    rw [List.cons_append, cutFrom, if_neg hc, ih (fun s hs => by have := h s hs; omega)]
    rw [List.cons_append, Nat.add_assoc, Nat.add_comm 1]

end Span

namespace Pattern

/-! ## Ends in order -/

/-- What follows the preferred match at a place, where there is a match. -/
def rest? (p : Pattern) (s : Place) : Option (List Char) :=
  (p.end? s).map (·.rest)

/-- The width of a match, told by what follows it. -/
theorem width?_eq (p : Pattern) (s : Place) :
    p.width? s = (p.rest? s).map fun r => s.rest.length - r.length := by
  rw [width?, rest?, Option.map_map]
  rfl

/-- **A sequence** goes on from the first end of its first part that lets its second part match. -/
theorem rest?_seq (p q : Pattern) (s : Place) :
    (seq p q).rest? s = (p.ends s).findSome? q.rest? := by
  rw [rest?, end?, ends, List.head?_flatMap, List.map_findSome?]
  rfl

/-- **An alternative** falls back on its second part where its first part does not match. -/
theorem rest?_alt (p q : Pattern) (s : Place) :
    (alt p q).rest? s = (p.rest? s).or (q.rest? s) := by
  rw [rest?, end?, ends, List.head?_append, Option.map_or]
  rfl

/-- A search whose hits all give the same answer is a test. -/
theorem findSome?_ite {α β : Type} {f : α → Option β} {p : α → Bool} {x : Option β} {l : List α}
    (h : ∀ a ∈ l, f a = if p a then x else none) :
    l.findSome? f = if l.any p then x else none := by
  induction l with
  | nil => rfl
  | cons a l ih =>
    have ih := ih fun b hb => h b (List.mem_cons_of_mem a hb)
    rw [List.findSome?_cons, h a List.mem_cons_self, List.any_cons, ih]
    cases p a <;> cases l.any p <;> cases x <;> rfl

/-- Nothing after a pattern leaves its ends as they are. -/
theorem ends_seq_empty (p : Pattern) : (seq p empty).ends = p.ends := by
  funext s
  simp only [ends, List.flatMap_singleton']

/-! ## Anchored patterns -/

/-- A pattern that matches at the start of a line only. -/
def Anchored (p : Pattern) : Prop :=
  ∀ r, p.ends ⟨false, r⟩ = []

theorem anchored_lineStart : Anchored lineStart :=
  fun _ => rfl

theorem Anchored.seq {p : Pattern} (h : p.Anchored) (q : Pattern) : (seq p q).Anchored :=
  fun r => by rw [ends, h r, List.flatMap_nil]

theorem Anchored.alt {p q : Pattern} (hp : p.Anchored) (hq : q.Anchored) : (alt p q).Anchored :=
  fun r => by rw [ends, hp r, hq r, List.append_nil]

theorem Anchored.rest? {p : Pattern} (h : p.Anchored) (r : List Char) :
    p.rest? ⟨false, r⟩ = none := by
  rw [Pattern.rest?, end?, h r]
  rfl

/-! ## The matches of a text -/

/-- No match starts before what is still to pass. -/
theorem le_of_mem_spansFrom {p : Pattern} {b : Bool} {i k : Nat} {text : List Char} {s : Nat × Nat}
    (h : s ∈ p.spansFrom b i k text) : i + k ≤ s.1 := by
  induction text generalizing b i k with
  | nil => cases k <;> simp only [spansFrom, List.not_mem_nil] at h
  | cons c r ih =>
    cases k with
    | succ k =>
      have := ih h
      omega
    | zero =>
      rw [spansFrom] at h
      split at h
      · rcases List.mem_cons.mp h with rfl | h
        · exact Nat.le_refl i
        · have := ih h
          omega
      · have := ih h
        omega

/-- What a pattern leaves of a text from a place on. The stretch in front stands for a match that is
not passed yet. -/
theorem eraseFrom_eq_cutFrom (p : Pattern) (b : Bool) {first i : Nat} (hi : first ≤ i) (k : Nat)
    (text : List Char) :
    p.eraseFrom b k text = Span.cutFrom ((first, i + k) :: p.spansFrom b i k text) i text := by
  induction text generalizing b first i k with
  | nil => cases k <;> rfl
  | cons c r ih =>
    cases k with
    | succ k =>
      have hc : Span.covers (first, i + (k + 1)) i = true := by
        simp only [Span.covers, Bool.and_eq_true, decide_eq_true_eq]; omega
      have he : i + (k + 1) = i + 1 + k := by omega
      rw [eraseFrom, spansFrom, Span.cutFrom, List.any_cons, hc, Bool.true_or, if_pos rfl, he]
      exact ih (c == '\n') (Nat.le_succ_of_le hi) k
    | zero =>
      rw [eraseFrom, spansFrom]
      split
      · next n _ =>
        have hc : Span.covers (i, i + n + 1) i = true := by
          simp only [Span.covers, Bool.and_eq_true, decide_eq_true_eq]; omega
        have he : i + n + 1 = i + 1 + n := by omega
        rw [Span.cutFrom_past (Nat.le_refl i), Span.cutFrom, List.any_cons, hc, Bool.true_or,
          if_pos rfl, he]
        exact ih (c == '\n') (Nat.le_succ i) n
      · have hs : ∀ s ∈ p.spansFrom (c == '\n') (i + 1) 0 r, i + [c].length ≤ s.1 :=
          fun s hs => Nat.le_of_add_right_le (le_of_mem_spansFrom hs)
        rw [Span.cutFrom_past (Nat.le_refl i), ih (c == '\n') (Nat.le_refl (i + 1)) 0,
          Span.cutFrom_past (Nat.le_refl (i + 1))]
        exact (Span.cutFrom_outside hs r).symm

/-- **What a pattern leaves of a text** is the text with its matches cut out. -/
theorem erase_eq_cut (p : Pattern) (text : List Char) :
    p.erase text = Span.cut (p.spans text) text := by
  rw [erase, eraseFrom_eq_cutFrom p true (Nat.le_refl 0), Span.cutFrom_past (Nat.le_refl 0)]
  rfl

/-- A match is one stretch, and its characters are still to pass. -/
theorem spansFrom_match {p : Pattern} {b : Bool} {text rest : List Char}
    (h : p.rest? ⟨b, text⟩ = some rest) (hlt : rest.length < text.length) (i : Nat) :
    p.spansFrom b i 0 text =
      (i, i + (text.length - rest.length)) ::
        p.spansFrom b i (text.length - rest.length) text := by
  cases text with
  | nil => simp at hlt
  | cons c r =>
    have hw : p.width? ⟨b, c :: r⟩ = some (r.length - rest.length + 1) := by
      rw [width?_eq, h]
      simp only [List.length_cons, Option.map_some, Option.some.injEq] at hlt ⊢
      omega
    have hn : (c :: r).length - rest.length = r.length - rest.length + 1 := by
      simp only [List.length_cons] at hlt ⊢
      omega
    rw [hn]
    -- only the left side scans from here; on the right the match is already being passed
    conv => lhs; rw [spansFrom, hw]
    rfl

/-- A line is passed over when an anchored pattern does not match at its start. -/
theorem spansFrom_pass {p : Pattern} (hp : p.Anchored) {w : List Char} (hw : '\n' ∉ w) {b : Bool}
    {text : List Char} (h : p.rest? ⟨b, w ++ '\n' :: text⟩ = none) (i : Nat) :
    p.spansFrom b i 0 (w ++ '\n' :: text) = p.spansFrom true (i + (w.length + 1)) 0 text := by
  induction w generalizing b i with
  | nil =>
    have hn : p.width? ⟨b, '\n' :: text⟩ = none := by rw [width?_eq]; exact congrArg _ h
    rw [List.nil_append, spansFrom, hn]
    rfl
  | cons c w ih =>
    have hc : (c == '\n') = false := beq_false_of_ne (List.ne_of_not_mem_cons hw).symm
    have hn : p.width? ⟨b, c :: (w ++ '\n' :: text)⟩ = none := by
      rw [width?_eq]
      exact congrArg _ h
    rw [List.cons_append, spansFrom, hn, hc]
    show p.spansFrom false (i + 1) 0 (w ++ '\n' :: text) = _
    rw [ih (List.not_mem_of_not_mem_cons hw) (hp.rest? _), List.length_cons]
    congr 1
    omega

/-- The last line is passed over in the same way. -/
theorem spansFrom_pass_last {p : Pattern} (hp : p.Anchored) {w : List Char} (hw : '\n' ∉ w)
    {b : Bool} (h : p.rest? ⟨b, w⟩ = none) (i : Nat) : p.spansFrom b i 0 w = [] := by
  induction w generalizing b i with
  | nil => rfl
  | cons c w ih =>
    have hc : (c == '\n') = false := beq_false_of_ne (List.ne_of_not_mem_cons hw).symm
    have hn : p.width? ⟨b, c :: w⟩ = none := by rw [width?_eq]; exact congrArg _ h
    rw [spansFrom, hn, hc]
    exact ih (List.not_mem_of_not_mem_cons hw) (hp.rest? _) (i + 1)

/-! ## Line by line -/

open Line (Page)

/-- **An anchored pattern that does not match at a line** goes on at the next one. -/
theorem spansFrom_line_pass {p : Pattern} (hp : p.Anchored) {l : List Char} {ls : List (List Char)}
    (h : Page (l :: ls)) (hr : p.rest? ⟨true, l ++ ls.flatten⟩ = none) (i : Nat) :
    p.spansFrom true i 0 (l ++ ls.flatten) = p.spansFrom true (i + l.length) 0 ls.flatten := by
  cases h with
  | last _ hw =>
    rw [List.flatten_nil, List.append_nil] at hr ⊢
    exact spansFrom_pass_last hp hw hr i
  | line hw _ =>
    rw [List.append_assoc, List.singleton_append] at hr ⊢
    rw [List.length_append]
    exact spansFrom_pass hp hw hr i

/-- Characters that belong to a match are passed one by one. -/
theorem spansFrom_skip (p : Pattern) (l : List Char) (b : Bool) (i k : Nat) (rest : List Char) :
    p.spansFrom b i (l.length + 1 + k) (l ++ '\n' :: rest) =
      p.spansFrom true (i + (l.length + 1)) k rest := by
  induction l generalizing b i with
  | nil =>
    rw [List.length_nil, Nat.zero_add, Nat.add_comm 1, List.nil_append, spansFrom]
    rfl
  | cons c l ih =>
    rw [List.length_cons, Nat.add_right_comm, List.cons_append, spansFrom, ih]
    congr 1
    omega

/-- A match that takes the rest of the text leaves none for another one. -/
theorem spansFrom_skip_last (p : Pattern) (l : List Char) (b : Bool) (i k : Nat) :
    p.spansFrom b i (l.length + k) l = [] := by
  induction l generalizing b i with
  | nil =>
    rw [List.length_nil, Nat.zero_add]
    cases k <;> rfl
  | cons c l ih =>
    rw [List.length_cons, Nat.add_right_comm, spansFrom]
    exact ih _ _

/-- **A line within a match** is passed whole. -/
theorem spansFrom_line_skip (p : Pattern) {l : List Char} {ls : List (List Char)}
    (h : Page (l :: ls)) (b : Bool) (i k : Nat) :
    p.spansFrom b i (l.length + k) (l ++ ls.flatten) =
      p.spansFrom true (i + l.length) k ls.flatten := by
  cases h with
  | last _ _ =>
    rw [List.flatten_nil, List.append_nil, spansFrom_skip_last]
    cases k <;> rfl
  | line hw _ =>
    rw [List.length_append, List.append_assoc, List.singleton_append]
    exact spansFrom_skip p _ b i k _

end Pattern

end Handout
