import Handout.Proofs.Scan
import Handout.Proofs.Utf8

/-!
# The marker grammar on bytes

Bytes can be read as text with each byte a character of its own, which is how a grammar of ASCII
patterns sees them. What a text's bytes are read as is its *spread*: characters of ASCII stand for
themselves, and every other one for characters outside of ASCII.

The grammar cannot tell a text from its spread: a tag stands on a spread line where it stands on the
line (`isOn_spread`, `opens_spread`), and a line feed is nowhere else. So what a variant keeps of the
spread is the spread of what it keeps (`kept_spread`), and for the bytes of a text that says which of
their lines are kept (`exists_keptLines`).
-/

namespace Handout

/-- A character of ASCII. -/
def Ascii (c : Char) : Prop :=
  c.toNat < 0x80

instance : DecidablePred Ascii := fun c => inferInstanceAs (Decidable (c.toNat < 0x80))

theorem ascii_of_all {text : List Char} (h : text.all (fun c => decide (Ascii c)) = true) :
    ∀ c ∈ text, Ascii c :=
  fun c hc => of_decide_eq_true (List.all_eq_true.mp h c hc)

namespace Bytes

/-- The character that a byte alone is read as. -/
def asChar (b : UInt8) : Char :=
  Char.ofNat b.toNat

/-- **Bytes read one by one.** -/
def asText (bytes : List UInt8) : List Char :=
  bytes.map asChar

/-- **The lines of bytes**, cut after every 0x0A. -/
def lines : List UInt8 → List (List UInt8)
  | [] => []
  | b :: r =>
    if b = 0x0A then [b] :: lines r
    else
      match lines r with
      | [] => [[b]]
      | l :: ls => (b :: l) :: ls

theorem toNat_asChar (b : UInt8) : (asChar b).toNat = b.toNat :=
  Utf8.toNat_char (.inl (Nat.lt_trans b.toNat_lt (by decide)))

theorem asChar_injective {a b : UInt8} (h : asChar a = asChar b) : a = b := by
  rw [← UInt8.toNat_inj, ← toNat_asChar, h, toNat_asChar]

theorem asText_injective {a b : List UInt8} (h : asText a = asText b) : a = b :=
  List.map_inj_right (fun _ _ => asChar_injective) |>.mp h

theorem asChar_eq_feed {b : UInt8} : asChar b = '\n' ↔ b = 0x0A :=
  ⟨fun h => asChar_injective h, fun h => h ▸ rfl⟩

/-- The lines of bytes, read one by one, are the lines of what is read. -/
theorem map_asText_lines (bytes : List UInt8) :
    (lines bytes).map asText = Line.ofText (asText bytes) := by
  induction bytes with
  | nil => rfl
  | cons b r ih =>
    rw [asText, List.map_cons, Line.ofText, lines]
    by_cases hb : b = 0x0A
    · rw [if_pos hb, if_pos (asChar_eq_feed.mpr hb), List.map_cons, ih]
      rfl
    · rw [if_neg hb, if_neg (fun h => hb (asChar_eq_feed.mp h)), ← asText, ← ih]
      cases lines r <;> rfl

/-! ## The spread of a text -/

/-- **The spread of a text**: its bytes, read one by one. -/
def spread (text : List Char) : List Char :=
  asText (Utf8.encode text)

/-- A character of ASCII stands for itself in a spread, and any other one for characters outside of
ASCII. -/
theorem spread_cons (c : Char) :
    (Ascii c ∧ ∀ r, spread (c :: r) = c :: spread r) ∨
      ¬ Ascii c ∧ ∃ x xs, (∀ r, spread (c :: r) = x :: (xs ++ spread r)) ∧ ¬ Ascii x ∧
        ∀ y ∈ xs, ¬ Ascii y := by
  have hspread : ∀ r, spread (c :: r) = asText (Utf8.encodeChar c) ++ spread r := fun r => by
    rw [spread, Utf8.encode_cons, asText, List.map_append]
    rfl
  rcases (Utf8.form_encodeChar c).ascii_or with ⟨hc, a, ha, hbytes⟩ | ⟨hc, hne, hhigh⟩
  · have hac : asChar a = c := by
      rw [asChar, ha, Char.ofNat_toNat]
    exact .inl ⟨hc, fun r => by rw [hspread, hbytes, asText, List.map_singleton, hac]; rfl⟩
  · obtain ⟨b, bs, hbs⟩ := List.exists_cons_of_ne_nil hne
    rw [hbs] at hspread hhigh
    have hout : ∀ y ∈ b :: bs, ¬ Ascii (asChar y) := fun y hy => by
      rw [Ascii, toNat_asChar]
      exact Nat.not_lt_of_le (hhigh y hy)
    refine .inr ⟨Nat.not_lt_of_le hc, asChar b, asText bs, hspread, hout b List.mem_cons_self, ?_⟩
    intro y hy
    obtain ⟨x, hx, rfl⟩ := List.mem_map.mp hy
    exact hout x (List.mem_cons_of_mem b hx)

/-- A character in front of a text begins its first line, unless it is a line feed. -/
theorem ofText_prepend {w : List Char} (hne : w ≠ []) (hw : '\n' ∉ w) (text : List Char) :
    Line.ofText (w ++ text) =
      match Line.ofText text with
      | [] => [w]
      | l :: ls => (w ++ l) :: ls := by
  induction w with
  | nil => exact absurd rfl hne
  | cons c w ih =>
    have hc := List.ne_of_not_mem_cons hw
    rw [List.cons_append, Line.ofText, if_neg hc.symm]
    cases w with
    | nil => cases h : Line.ofText text <;> simp [h, Line.consFirst]
    | cons d w =>
      rw [ih (List.cons_ne_nil d w) (List.not_mem_of_not_mem_cons hw)]
      cases Line.ofText text <;> rfl

/-- The lines of a spread are the spreads of the lines. -/
theorem ofText_spread (text : List Char) :
    Line.ofText (spread text) = (Line.ofText text).map spread := by
  induction text with
  | nil => rfl
  | cons c r ih =>
    by_cases hc : c = '\n'
    · subst hc
      change Line.ofText ('\n' :: spread r) = _
      rw [Line.ofText, Line.ofText, if_pos rfl, if_pos rfl, ih]
      rfl
    · obtain ⟨w, hne, hw, hs⟩ : ∃ w, w ≠ [] ∧ '\n' ∉ w ∧ ∀ r, spread (c :: r) = w ++ spread r := by
        rcases spread_cons c with ⟨_, hs⟩ | ⟨_, x, xs, hs, hx, hxs⟩
        · exact ⟨[c], by simp, by simpa using Ne.symm hc, hs⟩
        · refine ⟨x :: xs, by simp, fun h => ?_, hs⟩
          rcases List.mem_cons.mp h with rfl | h
          · exact hx (by decide)
          · exact hxs _ h (by decide)
      rw [hs, ofText_prepend hne hw, ih, Line.ofText, if_neg hc]
      cases Line.ofText r with
      | nil => rw [Line.consFirst, List.map_singleton, hs, spread, Utf8.encode]; simp [asText]
      | cons l ls => simp [Line.consFirst, hs]

end Bytes

namespace Tag

open Bytes

/-! ## Tags on a spread -/

/-- A tag of ASCII that begins with something. -/
structure Plain (t : Tag) : Prop where
  opening_ne : t.opening ≠ []
  opening : ∀ c ∈ t.opening, Ascii c
  closing : ∀ c ∈ t.closing, Ascii c

theorem plain_start (v : Variant) : (start v).Plain := by
  cases v <;> exact ⟨by decide, ascii_of_all rfl, ascii_of_all rfl⟩

theorem plain_stop (v : Variant) : (stop v).Plain := by
  cases v <;> exact ⟨by decide, ascii_of_all rfl, ascii_of_all rfl⟩

theorem ne_of_ascii {a x : Char} (ha : Ascii a) (hx : ¬ Ascii x) : a ≠ x :=
  fun h => hx (h ▸ ha)

theorem drop?_spread {p : List Char} (hp : ∀ c ∈ p, Ascii c) (text : List Char) :
    drop? p (spread text) = (drop? p text).map spread := by
  induction p generalizing text with
  | nil => rfl
  | cons a p ih =>
    obtain ⟨ha, hp⟩ := List.forall_mem_cons.mp hp
    cases text with
    | nil => rfl
    | cons c r =>
      rcases spread_cons c with ⟨_, hs⟩ | ⟨hc, x, xs, hs, hx, _⟩
      · rw [hs, drop?, drop?, ih hp]
        split <;> rfl
      · rw [hs, drop?, drop?, if_neg (ne_of_ascii ha hx), if_neg (ne_of_ascii ha hc)]
        rfl

theorem isBlank_of_not_ascii {x : Char} (hx : ¬ Ascii x) : isBlank x = false := by
  rw [Bool.eq_false_iff]
  intro h
  rw [isBlank, Bool.or_eq_true, beq_iff_eq, beq_iff_eq] at h
  rcases h with rfl | rfl <;> exact hx (by decide)

theorem dropWhile_spread (text : List Char) :
    (spread text).dropWhile isBlank = spread (text.dropWhile isBlank) := by
  induction text with
  | nil => rfl
  | cons c r ih =>
    rcases spread_cons c with ⟨_, hs⟩ | ⟨hc, x, xs, hs, hx, _⟩
    · rw [hs, List.dropWhile_cons, List.dropWhile_cons, ih]
      split
      · rfl
      · exact (hs r).symm
    · rw [hs, List.dropWhile_cons, List.dropWhile_cons, isBlank_of_not_ascii hx,
        isBlank_of_not_ascii hc]
      exact (hs r).symm

theorem after?_spread {t : Tag} (ht : t.Plain) (text : List Char) :
    t.after? (spread text) = (t.after? text).map spread := by
  rw [after?, after?, drop?_spread ht.opening]
  cases drop? t.opening text with
  | none => rfl
  | some r =>
    change drop? t.closing ((spread r).dropWhile isBlank) = _
    rw [dropWhile_spread, drop?_spread ht.closing]
    rfl

/-- No tag begins with a character outside of ASCII. -/
theorem after?_of_not_ascii {t : Tag} (ht : t.Plain) {x : Char} (hx : ¬ Ascii x) (r : List Char) :
    t.after? (x :: r) = none := by
  obtain ⟨a, p, ho⟩ := List.exists_cons_of_ne_nil ht.opening_ne
  have ha := ht.opening a (ho ▸ List.mem_cons_self)
  rw [after?, ho, drop?, if_neg (ne_of_ascii ha hx)]
  rfl

theorem isOn_append_of_not_ascii {t : Tag} (ht : t.Plain) {xs : List Char}
    (hx : ∀ x ∈ xs, ¬ Ascii x) (r : List Char) : t.isOn (xs ++ r) = t.isOn r := by
  induction xs with
  | nil => rfl
  | cons x xs ih =>
    obtain ⟨hx, hxs⟩ := List.forall_mem_cons.mp hx
    rw [List.cons_append, isOn, after?_of_not_ascii ht hx, ih hxs]
    rfl

/-- **A tag stands on a spread line** where it stands on the line. -/
theorem isOn_spread {t : Tag} (ht : t.Plain) (line : List Char) :
    t.isOn (spread line) = t.isOn line := by
  induction line with
  | nil => rfl
  | cons c r ih =>
    rcases spread_cons c with ⟨_, hs⟩ | ⟨hc, x, xs, hs, hx, hxs⟩
    · have hafter := after?_spread ht (c :: r)
      rw [hs] at hafter ⊢
      rw [isOn, isOn, hafter, ih, Option.isSome_map]
    · rw [hs, ← List.cons_append, isOn_append_of_not_ascii ht (List.forall_mem_cons.mpr ⟨hx, hxs⟩),
        isOn, after?_of_not_ascii ht hc, ih]
      rfl

end Tag

namespace LineScan

open Bytes Tag

/-! ## Lines on a spread -/

variable (v : Variant)

theorem opens_append_of_not_ascii {xs : List Char} (hx : ∀ x ∈ xs, ¬ Ascii x) (r : List Char) :
    opens v (xs ++ r) = opens v r := by
  induction xs with
  | nil => rfl
  | cons x xs ih =>
    obtain ⟨hx, hxs⟩ := List.forall_mem_cons.mp hx
    rw [List.cons_append, opens, after?_of_not_ascii (plain_start v) hx, ih hxs]
    rfl

/-- **A spread line opens a block** where the line does. -/
theorem opens_spread (line : List Char) : opens v (spread line) = opens v line := by
  induction line with
  | nil => rfl
  | cons c r ih =>
    rcases spread_cons c with ⟨_, hs⟩ | ⟨hc, x, xs, hs, hx, hxs⟩
    · have hafter := after?_spread (plain_start v) (c :: r)
      rw [hs] at hafter ⊢
      rw [opens, opens, hafter, ih]
      cases (Tag.start v).after? (c :: r) with
      | none => rfl
      | some rest => simp only [Option.map_some, isOn_spread (plain_stop v)]
    · rw [hs, ← List.cons_append, opens_append_of_not_ascii v (List.forall_mem_cons.mpr ⟨hx, hxs⟩),
        opens, after?_of_not_ascii (plain_start v) hc, ih]
      rfl

theorem closes_spread (line : List Char) : closes v (spread line) = closes v line :=
  isOn_spread (plain_stop v) line

/-- A text of ASCII is the spread of no other text. -/
theorem spread_eq_iff {m : List Char} (hm : ∀ c ∈ m, Ascii c) (line : List Char) :
    spread line = m ↔ line = m := by
  induction line generalizing m with
  | nil => exact ⟨fun h => h, fun h => h⟩
  | cons c r ih =>
    rcases spread_cons c with ⟨hc, hs⟩ | ⟨hc, x, xs, hs, hx, _⟩
    · rw [hs]
      cases m with
      | nil => simp
      | cons d m =>
        rw [List.cons.injEq, List.cons.injEq, ih (List.forall_mem_cons.mp hm).2]
    · rw [hs]
      constructor
      · rintro rfl
        exact absurd (hm x List.mem_cons_self) hx
      · rintro rfl
        exact absurd (hm c List.mem_cons_self) hc

theorem isFileMark_spread (line : List Char) :
    isFileMark v (spread line) = isFileMark v line := by
  have h₁ : ∀ c ∈ v.fileMark.toList ++ ['\n'], Ascii c := by
    cases v <;> exact ascii_of_all rfl
  have h₂ : ∀ c ∈ v.fileMark.toList ++ ['\r', '\n'], Ascii c := by
    cases v <;> exact ascii_of_all rfl
  rw [Bool.eq_iff_iff, isFileMark, isFileMark]
  simp only [Bool.or_eq_true, beq_iff_eq, spread_eq_iff h₁, spread_eq_iff h₂]

theorem goesAlone_spread (line : List Char) : goesAlone v (spread line) = goesAlone v line := by
  rw [goesAlone, goesAlone, isOn_spread (plain_start v), isOn_spread (plain_stop v),
    isFileMark_spread]

/-- A scan cannot tell a spread line from the line. -/
theorem alike_spread (line : List Char) : Alike v (spread line) line :=
  ⟨opens_spread v.other line, closes_spread v.other line, goesAlone_spread v line⟩

/-- **What is kept of spread lines** is the spread of what is kept. -/
theorem kept_spread (ls : List (List Char)) : kept v (ls.map spread) = (kept v ls).map spread :=
  keptFrom_map v (fun l _ => alike_spread v l) false

end LineScan

namespace Bytes

/-! ## The bytes of a text -/

/-- The bytes of a text of ASCII. -/
def ofAscii (text : List Char) : List UInt8 :=
  text.map fun c => UInt8.ofNat c.toNat

theorem asText_ofAscii {m : List Char} (hm : ∀ c ∈ m, Ascii c) : asText (ofAscii m) = m := by
  rw [asText, ofAscii, List.map_map]
  refine (List.map_congr_left fun c hc => ?_).trans (List.map_id m)
  have hbyte : (UInt8.ofNat c.toNat).toNat = c.toNat :=
    Utf8.toNat_ofNat (Nat.lt_trans (hm c hc) (by decide))
  rw [Function.comp_apply, asChar, hbyte, Char.ofNat_toNat, id_eq]

/-- A text of ASCII begins the bytes of a text where it begins the text. -/
theorem ofAscii_prefix_iff {m : List Char} (hm : ∀ c ∈ m, Ascii c) (text : List Char) :
    ofAscii m <+: Utf8.encode text ↔ m <+: text := by
  have hspread : m <+: spread text ↔ m <+: text := by
    rw [← List.isPrefixOf_iff_prefix, ← List.isPrefixOf_iff_prefix,
      Tag.isPrefixOf_eq_isSome_drop?, Tag.isPrefixOf_eq_isSome_drop?, Tag.drop?_spread hm,
      Option.isSome_map]
  rw [← hspread]
  constructor
  · intro h
    have hread := h.map asChar
    rwa [← asText, asText_ofAscii hm] at hread
  · intro h
    obtain ⟨front, hfront, hm'⟩ := List.prefix_map_iff.mp h
    rwa [asText_injective (hm'.symm.trans (asText_ofAscii hm).symm)] at hfront

/-- The lines of a text's bytes are the bytes of its lines. -/
theorem lines_encode (text : List Char) :
    lines (Utf8.encode text) = (Line.ofText text).map Utf8.encode := by
  refine (List.map_inj_right fun a b => asText_injective).mp ?_
  rw [map_asText_lines, ← spread, ofText_spread, List.map_map]
  rfl

theorem encode_flatten (ls : List (List Char)) :
    Utf8.encode ls.flatten = (ls.map Utf8.encode).flatten := by
  induction ls with
  | nil => rfl
  | cons l ls ih =>
    rw [List.flatten_cons, List.map_cons, List.flatten_cons, ← ih]
    exact List.flatMap_append

theorem asText_flatten (ls : List (List UInt8)) : asText ls.flatten = (ls.map asText).flatten :=
  List.map_flatten

/-- **The lines that a variant keeps of bytes**: lines of the bytes in their order, that are kept of
the bytes read one by one, by the pattern of the variant as by its scan. -/
structure KeptLines (v : Variant) (bytes : List UInt8) (ls : List (List UInt8)) : Prop where
  sublist : ls.Sublist (lines bytes)
  pattern : asText ls.flatten = v.transform (asText bytes)
  scan : ls.map asText = LineScan.kept v ((lines bytes).map asText)

/-- **What a variant keeps of a text** is, in bytes, the lines that it keeps of the bytes. -/
theorem exists_keptLines (v : Variant) (text : List Char) :
    ∃ ls, KeptLines v (Utf8.encode text) ls ∧ ls.flatten = Utf8.encode (v.transform text) := by
  have hscan : ((LineScan.kept v (Line.ofText text)).map Utf8.encode).map asText =
      LineScan.kept v ((lines (Utf8.encode text)).map asText) := by
    rw [map_asText_lines, ← spread, ofText_spread, LineScan.kept_spread, List.map_map]
    rfl
  refine ⟨(LineScan.kept v (Line.ofText text)).map Utf8.encode, ⟨?_, ?_, hscan⟩, ?_⟩
  · rw [lines_encode]
    exact (LineScan.kept_sublist v _).map _
  · rw [asText_flatten, hscan, v.transform_eq_kept, map_asText_lines]
  · rw [v.transform_eq_kept, encode_flatten]

end Bytes

end Handout
