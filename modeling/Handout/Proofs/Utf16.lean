import Handout.Encoding.Utf16
import Handout.Proofs.Utf8

/-!
# UTF-16 there and back

Reading the bytes of a text gives the text, in either order (`decode_encode`), and bytes that can be
read are those of the text that is read (`encode_of_decode`). A character is one unit that is no
surrogate, or a pair of them.
-/

namespace Handout.Utf16

open Utf8 (toNat_ofNat toNat_lt)

/-! ## Units -/

theorem isHigh_iff {u : Nat} : isHigh u = true ↔ 0xD800 ≤ u ∧ u < 0xDC00 := by
  simp [isHigh]

theorem isLow_iff {u : Nat} : isLow u = true ↔ 0xDC00 ≤ u ∧ u < 0xE000 := by
  simp [isLow]

/-- A unit is two bytes, and they are the unit. -/
theorem exists_split (o : Order) {u : Nat} (h : u < 0x10000) :
    ∃ a b, o.split u = [a, b] ∧ o.join a b = u := by
  have hlow := toNat_ofNat (n := u % 256) (by omega)
  have hhigh := toNat_ofNat (n := u / 256) (by omega)
  cases o with
  | little =>
    refine ⟨_, _, rfl, ?_⟩
    rw [Order.join, hlow, hhigh]
    omega
  | big =>
    refine ⟨_, _, rfl, ?_⟩
    rw [Order.join, hlow, hhigh]
    omega

variable {o : Order} {pos : Nat} {r : List UInt8}

/-- A unit that is no surrogate is read, and then what follows. -/
theorem decodeAt_unit {u : Nat} (h : u < 0x10000) (hhigh : ¬ isHigh u = true)
    (hlow : ¬ isLow u = true) :
    decodeAt o pos (o.split u ++ r) = (decodeAt o (pos + 2) r).map (Char.ofNat u :: ·) := by
  obtain ⟨a, b, hsplit, hjoin⟩ := exists_split o h
  rw [hsplit, List.cons_append, List.cons_append, List.nil_append, decodeAt.eq_def]
  simp only [hjoin, if_neg hhigh, if_neg hlow]

/-- A pair of surrogates is read, and then what follows. -/
theorem decodeAt_pair {u v : Nat} (hu : isHigh u = true) (hv : isLow v = true) :
    decodeAt o pos (o.split u ++ o.split v ++ r) =
      (decodeAt o (pos + 4) r).map
        (Char.ofNat (0x10000 + (u - 0xD800) * 1024 + (v - 0xDC00)) :: ·) := by
  have hu' := isHigh_iff.mp hu
  have hv' := isLow_iff.mp hv
  have hlow : ¬ isLow u = true := by
    rw [isLow_iff]
    omega
  obtain ⟨a, b, hsplit, hjoin⟩ := exists_split o (u := u) (by omega)
  obtain ⟨c, d, hsplit', hjoin'⟩ := exists_split o (u := v) (by omega)
  rw [hsplit, hsplit', decodeAt.eq_def]
  simp only [List.cons_append, List.nil_append, hjoin, hjoin', hu, hv, if_neg hlow, if_true]

/-! ## Texts -/

/-- A character at the start of bytes is read, and then what follows. -/
theorem decodeAt_encodeChar (c : Char) :
    decodeAt o pos (encodeChar o c ++ r) =
      (decodeAt o (pos + (encodeChar o c).length) r).map (c :: ·) := by
  have hc := toNat_lt c
  have hlength : ∀ u, (o.split u).length = 2 := fun u => by cases o <;> rfl
  rw [encodeChar]
  by_cases h : c.toNat < 0x10000
  · have hhigh : ¬ isHigh c.toNat = true := by
      rw [isHigh_iff]
      omega
    have hlow : ¬ isLow c.toNat = true := by
      rw [isLow_iff]
      omega
    rw [if_pos h, decodeAt_unit h hhigh hlow, hlength, Char.ofNat_toNat]
  · have hhigh : isHigh (0xD800 + (c.toNat - 0x10000) / 1024) = true := by
      rw [isHigh_iff]
      omega
    have hlow : isLow (0xDC00 + (c.toNat - 0x10000) % 1024) = true := by
      rw [isLow_iff]
      omega
    rw [if_neg h, decodeAt_pair hhigh hlow, List.length_append, hlength, hlength]
    have hn : 0x10000 + (0xD800 + (c.toNat - 0x10000) / 1024 - 0xD800) * 1024 +
        (0xDC00 + (c.toNat - 0x10000) % 1024 - 0xDC00) = c.toNat := by omega
    rw [hn, Char.ofNat_toNat]

theorem decodeAt_encode (o : Order) (pos : Nat) (text : List Char) :
    decodeAt o pos (encode o text) = .ok text := by
  induction text generalizing pos with
  | nil => rw [encode, List.flatMap_nil, decodeAt]
  | cons c r ih =>
    rw [encode, List.flatMap_cons, decodeAt_encodeChar, ← encode, ih]
    rfl

/-- **Reading what was written** gives the text. -/
theorem decode_encode (o : Order) (text : List Char) : decode o (encode o text) = .ok text :=
  decodeAt_encode o 0 text

/-! ## Bytes -/

/-- Two bytes are the bytes of the unit that they are. -/
theorem split_join (o : Order) (a b : UInt8) : o.split (o.join a b) = [a, b] := by
  have ha := a.toNat_lt
  have hb := b.toNat_lt
  cases o with
  | little =>
    rw [Order.join, Order.split, Utf8.ofNat_eq (b := a) (by omega), Utf8.ofNat_eq (b := b) (by omega)]
  | big =>
    rw [Order.join, Order.split, Utf8.ofNat_eq (b := a) (by omega), Utf8.ofNat_eq (b := b) (by omega)]

theorem join_lt (o : Order) (a b : UInt8) : o.join a b < 0x10000 := by
  have ha := a.toNat_lt
  have hb := b.toNat_lt
  cases o with
  | little => rw [Order.join]; omega
  | big => rw [Order.join]; omega

/-- The bytes of the character of a unit that is no surrogate. -/
theorem encodeChar_unit {u : Nat} (h : u < 0x10000) (hhigh : ¬ isHigh u = true)
    (hlow : ¬ isLow u = true) : encodeChar o (Char.ofNat u) = o.split u := by
  rw [isHigh_iff] at hhigh
  rw [isLow_iff] at hlow
  have hu : (Char.ofNat u).toNat = u := Utf8.toNat_char (by omega)
  rw [encodeChar, hu, if_pos h]

/-- The bytes of the character of a pair of surrogates. -/
theorem encodeChar_pair {u v : Nat} (hu : isHigh u = true) (hv : isLow v = true) :
    encodeChar o (Char.ofNat (0x10000 + (u - 0xD800) * 1024 + (v - 0xDC00))) =
      o.split u ++ o.split v := by
  rw [isHigh_iff] at hu
  rw [isLow_iff] at hv
  have hn : (Char.ofNat (0x10000 + (u - 0xD800) * 1024 + (v - 0xDC00))).toNat =
      0x10000 + (u - 0xD800) * 1024 + (v - 0xDC00) := Utf8.toNat_char (by omega)
  have hfirst : 0xD800 + (0x10000 + (u - 0xD800) * 1024 + (v - 0xDC00) - 0x10000) / 1024 = u := by
    omega
  have hsecond : 0xDC00 + (0x10000 + (u - 0xD800) * 1024 + (v - 0xDC00) - 0x10000) % 1024 = v := by
    omega
  rw [encodeChar, hn, if_neg (by omega), hfirst, hsecond]

theorem encode_of_decodeAt {bytes : List UInt8} {text : List Char}
    (h : decodeAt o pos bytes = .ok text) : encode o text = bytes := by
  fun_induction decodeAt o pos bytes generalizing text with
  | case1 => cases h; rfl
  | case4 pos a b u hlow' hhigh c d r w hlow =>
    next ih =>
      obtain ⟨tail, hr, rfl⟩ := Utf8.map_eq_ok h
      rw [encode, List.flatMap_cons, encodeChar_pair hhigh hlow, split_join, split_join, ← encode,
        ih hr]
      rfl
  | case7 pos a b r u hlow hhigh =>
    next ih =>
      obtain ⟨tail, hr, rfl⟩ := Utf8.map_eq_ok h
      rw [encode, List.flatMap_cons, encodeChar_unit (join_lt o a b) hhigh hlow, split_join,
        ← encode, ih hr]
      rfl
  -- every other way through the bytes ends in a fault
  | _ => cases h

/-- **Bytes that can be read** are those of the text that is read. -/
theorem encode_of_decode {bytes : List UInt8} {text : List Char} (h : decode o bytes = .ok text) :
    encode o text = bytes :=
  encode_of_decodeAt h

end Handout.Utf16
