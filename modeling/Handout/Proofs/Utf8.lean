import Handout.Encoding.Utf8

/-!
# UTF-8 there and back

Reading the bytes of a text gives the text (`decode_encode`), and bytes that can be read are the bytes
of what is read (`encode_of_decode`). So the bytes that can be read are the valid UTF-8 of the
library (`exists_decode_iff`).

All of it goes by one character in front of bytes that follow.
-/

namespace Handout.Utf8

/-! ## Bytes as numbers -/

theorem toNat_ofNat {n : Nat} (h : n < 256) : (UInt8.ofNat n).toNat = n := by
  simp [Nat.mod_eq_of_lt h]

theorem isTail_iff {b : UInt8} : isTail b = true ↔ 0x80 ≤ b.toNat ∧ b.toNat < 0xC0 := by
  simp [isTail, UInt8.le_iff_toNat_le, UInt8.lt_iff_toNat_lt]

theorem tailBits_eq (b : UInt8) : tailBits b = b.toNat - 0x80 :=
  rfl

/-- What may stand second depends on the first byte at both ends of either range. -/
theorem isSecond_iff {a b : UInt8} :
    isSecond a b = true ↔ isTail b = true ∧ (a.toNat = 0xE0 → 0xA0 ≤ b.toNat) ∧
      (a.toNat = 0xED → b.toNat < 0xA0) ∧ (a.toNat = 0xF0 → 0x90 ≤ b.toNat) ∧
        (a.toNat = 0xF4 → b.toNat < 0x90) := by
  rw [isSecond, Bool.and_eq_true]
  refine and_congr_right fun _ => ?_
  simp only [← UInt8.toNat_inj]
  split
  · simp_all [UInt8.le_iff_toNat_le]
  · split
    · simp_all [UInt8.lt_iff_toNat_lt]
    · split
      · simp_all [UInt8.le_iff_toNat_le]
      · split <;> simp_all [UInt8.lt_iff_toNat_lt]

/-- The number of a character is below the surrogates or above them. -/
theorem toNat_lt (c : Char) : c.toNat < 0xD800 ∨ 0xDFFF < c.toNat ∧ c.toNat < 0x110000 :=
  c.valid

theorem toNat_char {n : Nat} (h : n < 0xD800 ∨ 0xDFFF < n ∧ n < 0x110000) :
    (Char.ofNat n).toNat = n := by
  rw [Char.ofNat, dif_pos (show n.isValidChar from h)]
  rfl

/-! ## One character -/

/-- **The bytes of one character**, with its number: the forms of one to four bytes. -/
inductive Form : List UInt8 → Nat → Prop
  | one {a : UInt8} (ha : a.toNat < 0x80) : Form [a] a.toNat
  | two {a b : UInt8} (ha : 0xC2 ≤ a.toNat) (ha' : a.toNat < 0xE0) (hb : isTail b = true) :
      Form [a, b] ((a.toNat - 0xC0) * 64 + tailBits b)
  | three {a b c : UInt8} (ha : 0xE0 ≤ a.toNat) (ha' : a.toNat < 0xF0) (hb : isSecond a b = true)
      (hc : isTail c = true) :
      Form [a, b, c] (((a.toNat - 0xE0) * 64 + tailBits b) * 64 + tailBits c)
  | four {a b c d : UInt8} (ha : 0xF0 ≤ a.toNat) (ha' : a.toNat < 0xF5) (hb : isSecond a b = true)
      (hc : isTail c = true) (hd : isTail d = true) :
      Form [a, b, c, d]
        ((((a.toNat - 0xF0) * 64 + tailBits b) * 64 + tailBits c) * 64 + tailBits d)

theorem not_lt {a n : UInt8} (h : n.toNat ≤ a.toNat) : ¬ a < n := by
  rw [UInt8.lt_iff_toNat_lt]
  exact Nat.not_lt_of_le h

/-- A character at the start of bytes is read, and then what follows. -/
theorem Form.decodeAt {bytes : List UInt8} {n : Nat} (h : Form bytes n) (pos : Nat)
    (r : List UInt8) :
    decodeAt pos (bytes ++ r) =
      (decodeAt (pos + bytes.length) r).map (Char.ofNat n :: ·) := by
  rw [decodeAt.eq_def]
  cases h with
  | @one a ha =>
    have h₁ : a < 0x80 := UInt8.lt_iff_toNat_lt.mpr ha
    simp only [List.cons_append, List.nil_append, h₁, if_true]
    rfl
  | @two a b ha ha' hb =>
    have h₁ : ¬ a < 0x80 := not_lt (Nat.le_trans (by decide) ha)
    have h₂ : ¬ a < 0xC2 := not_lt ha
    have h₃ : a < 0xE0 := UInt8.lt_iff_toNat_lt.mpr ha'
    simp only [List.cons_append, List.nil_append, h₁, h₂, h₃, hb, if_true, if_false]
    rfl
  | @three a b c ha ha' hb hc =>
    have h₁ : ¬ a < 0x80 := not_lt (Nat.le_trans (by decide) ha)
    have h₂ : ¬ a < 0xC2 := not_lt (Nat.le_trans (by decide) ha)
    have h₃ : ¬ a < 0xE0 := not_lt ha
    have h₄ : a < 0xF0 := UInt8.lt_iff_toNat_lt.mpr ha'
    simp only [List.cons_append, List.nil_append, h₁, h₂, h₃, h₄, hb, hc, if_true, if_false]
    rfl
  | @four a b c d ha ha' hb hc hd =>
    have h₁ : ¬ a < 0x80 := not_lt (Nat.le_trans (by decide) ha)
    have h₂ : ¬ a < 0xC2 := not_lt (Nat.le_trans (by decide) ha)
    have h₃ : ¬ a < 0xE0 := not_lt (Nat.le_trans (by decide) ha)
    have h₄ : ¬ a < 0xF0 := not_lt ha
    have h₅ : a < 0xF5 := UInt8.lt_iff_toNat_lt.mpr ha'
    simp only [List.cons_append, List.nil_append, h₁, h₂, h₃, h₄, h₅, hb, hc, hd, if_true, if_false]
    rfl

theorem map_eq_ok {x : Except DecodeFault (List Char)} {c : Char} {text : List Char}
    (h : x.map (c :: ·) = .ok text) : ∃ tail, x = .ok tail ∧ text = c :: tail := by
  cases x with
  | error f => cases h
  | ok tail => cases h; exact ⟨tail, rfl, rfl⟩

theorem le_of_not_lt {a n : UInt8} (h : ¬ a < n) : n.toNat ≤ a.toNat := by
  rw [UInt8.lt_iff_toNat_lt] at h
  exact Nat.le_of_not_lt h

/-- A tail byte carries six bits. -/
theorem tail_ofNat {m : Nat} (h : m < 64) :
    isTail (.ofNat (0x80 + m)) = true ∧ tailBits (.ofNat (0x80 + m)) = m := by
  have hb := toNat_ofNat (n := 0x80 + m) (by omega)
  refine ⟨isTail_iff.mpr ?_, ?_⟩
  · omega
  · have hbits := tailBits_eq (UInt8.ofNat (0x80 + m))
    omega

/-- The bytes of a character have a form. -/
theorem form_encodeChar (c : Char) : Form (encodeChar c) c.toNat := by
  have hc := toNat_lt c
  rw [encodeChar]
  split
  · next h =>
    have ha := toNat_ofNat (n := c.toNat) (by omega)
    have hform := Form.one (a := .ofNat c.toNat) (by omega)
    rwa [ha] at hform
  · split
    · next h₁ h₂ =>
      have ha := toNat_ofNat (n := 0xC0 + c.toNat / 64) (by omega)
      obtain ⟨hb, hb'⟩ := tail_ofNat (m := c.toNat % 64) (by omega)
      have hform := Form.two (a := .ofNat (0xC0 + c.toNat / 64)) (by omega) (by omega) hb
      rw [ha, hb'] at hform
      rwa [show (0xC0 + c.toNat / 64 - 0xC0) * 64 + c.toNat % 64 = c.toNat by omega] at hform
    · split
      · next h₁ h₂ h₃ =>
        have ha := toNat_ofNat (n := 0xE0 + c.toNat / 4096) (by omega)
        obtain ⟨hb, hb'⟩ := tail_ofNat (m := c.toNat / 64 % 64) (by omega)
        obtain ⟨hd, hd'⟩ := tail_ofNat (m := c.toNat % 64) (by omega)
        have hsecond : isSecond (.ofNat (0xE0 + c.toNat / 4096))
            (.ofNat (0x80 + c.toNat / 64 % 64)) = true := by
          have hn := toNat_ofNat (n := 0x80 + c.toNat / 64 % 64) (by omega)
          refine isSecond_iff.mpr ⟨hb, ?_⟩
          omega
        have hform := Form.three (a := .ofNat (0xE0 + c.toNat / 4096)) (by omega) (by omega)
          hsecond hd
        rw [ha, hb', hd'] at hform
        rwa [show ((0xE0 + c.toNat / 4096 - 0xE0) * 64 + c.toNat / 64 % 64) * 64 + c.toNat % 64 =
          c.toNat by omega] at hform
      · next h₁ h₂ h₃ =>
        have ha := toNat_ofNat (n := 0xF0 + c.toNat / 262144) (by omega)
        obtain ⟨hb, hb'⟩ := tail_ofNat (m := c.toNat / 4096 % 64) (by omega)
        obtain ⟨hd, hd'⟩ := tail_ofNat (m := c.toNat / 64 % 64) (by omega)
        obtain ⟨he, he'⟩ := tail_ofNat (m := c.toNat % 64) (by omega)
        have hsecond : isSecond (.ofNat (0xF0 + c.toNat / 262144))
            (.ofNat (0x80 + c.toNat / 4096 % 64)) = true := by
          have hn := toNat_ofNat (n := 0x80 + c.toNat / 4096 % 64) (by omega)
          refine isSecond_iff.mpr ⟨hb, ?_⟩
          omega
        have hform := Form.four (a := .ofNat (0xF0 + c.toNat / 262144)) (by omega) (by omega)
          hsecond hd he
        rw [ha, hb', hd', he'] at hform
        rwa [show (((0xF0 + c.toNat / 262144 - 0xF0) * 64 + c.toNat / 4096 % 64) * 64 +
          c.toNat / 64 % 64) * 64 + c.toNat % 64 = c.toNat by omega] at hform

theorem ofNat_eq {b : UInt8} {n : Nat} (h : n = b.toNat) : UInt8.ofNat n = b := by
  rw [h, UInt8.ofNat_toNat]

/-- A form is the bytes of its character. -/
theorem Form.encodeChar {bytes : List UInt8} {n : Nat} (h : Form bytes n) :
    encodeChar (Char.ofNat n) = bytes := by
  cases h with
  | @one a ha =>
    rw [Utf8.encodeChar, toNat_char (by omega)]
    simp only [ha, if_true, UInt8.ofNat_toNat]
  | @two a b ha ha' hb =>
    have hb' := isTail_iff.mp hb
    have hbits := tailBits_eq b
    rw [Utf8.encodeChar, toNat_char (by omega)]
    rw [if_neg (by omega), if_pos (by omega), ofNat_eq (b := a) (by omega),
      ofNat_eq (b := b) (by omega)]
  | @three a b c ha ha' hb hc =>
    obtain ⟨hb', h₁, h₂, -, -⟩ := isSecond_iff.mp hb
    have hb'' := isTail_iff.mp hb'
    have hc' := isTail_iff.mp hc
    have hbits := tailBits_eq b
    have hcbits := tailBits_eq c
    rw [Utf8.encodeChar, toNat_char (by omega)]
    rw [if_neg (by omega), if_neg (by omega), if_pos (by omega),
      ofNat_eq (b := a) (by omega), ofNat_eq (b := b) (by omega), ofNat_eq (b := c) (by omega)]
  | @four a b c d ha ha' hb hc hd =>
    obtain ⟨hb', -, -, h₁, h₂⟩ := isSecond_iff.mp hb
    have hb'' := isTail_iff.mp hb'
    have hc' := isTail_iff.mp hc
    have hd' := isTail_iff.mp hd
    have hbits := tailBits_eq b
    have hcbits := tailBits_eq c
    have hdbits := tailBits_eq d
    rw [Utf8.encodeChar, toNat_char (by omega)]
    rw [if_neg (by omega), if_neg (by omega), if_neg (by omega),
      ofNat_eq (b := a) (by omega), ofNat_eq (b := b) (by omega), ofNat_eq (b := c) (by omega),
      ofNat_eq (b := d) (by omega)]

/-- A character of ASCII is one byte, and any other one is bytes outside of ASCII. -/
theorem Form.ascii_or {bytes : List UInt8} {n : Nat} (h : Form bytes n) :
    n < 0x80 ∧ (∃ a : UInt8, a.toNat = n ∧ bytes = [a]) ∨
      0x80 ≤ n ∧ bytes ≠ [] ∧ ∀ b ∈ bytes, 0x80 ≤ b.toNat := by
  cases h with
  | @one a ha => exact .inl ⟨ha, a, rfl, rfl⟩
  | @two a b ha _ hb =>
    have hb' := isTail_iff.mp hb
    have hbits := tailBits_eq b
    refine .inr ⟨by omega, by simp, ?_⟩
    simp only [List.mem_cons, List.not_mem_nil, or_false, forall_eq_or_imp, forall_eq]
    omega
  | @three a b c ha _ hb hc =>
    obtain ⟨hb', h₁, -, -, -⟩ := isSecond_iff.mp hb
    have hb'' := isTail_iff.mp hb'
    have hc' := isTail_iff.mp hc
    have hbits := tailBits_eq b
    refine .inr ⟨by omega, by simp, ?_⟩
    simp only [List.mem_cons, List.not_mem_nil, or_false, forall_eq_or_imp, forall_eq]
    omega
  | @four a b c d ha _ hb hc hd =>
    obtain ⟨hb', -, -, h₁, -⟩ := isSecond_iff.mp hb
    have hb'' := isTail_iff.mp hb'
    have hc' := isTail_iff.mp hc
    have hd' := isTail_iff.mp hd
    have hbits := tailBits_eq b
    refine .inr ⟨by omega, by simp, ?_⟩
    simp only [List.mem_cons, List.not_mem_nil, or_false, forall_eq_or_imp, forall_eq]
    omega

/-! ## Texts -/

theorem encode_cons (c : Char) (text : List Char) :
    encode (c :: text) = encodeChar c ++ encode text :=
  rfl

theorem decodeAt_encode (pos : Nat) (text : List Char) : decodeAt pos (encode text) = .ok text := by
  induction text generalizing pos with
  | nil => rw [encode, List.flatMap_nil, decodeAt]
  | cons c r ih =>
    rw [encode_cons, (form_encodeChar c).decodeAt, ih, Char.ofNat_toNat]
    rfl

/-- **Reading what was written** gives the text. -/
theorem decode_encode (text : List Char) : decode (encode text) = .ok text :=
  decodeAt_encode 0 text

theorem Form.encode_cons {bytes r : List UInt8} {n : Nat} {tail : List Char} (h : Form bytes n)
    (hr : encode tail = r) : encode (Char.ofNat n :: tail) = bytes ++ r := by
  rw [Utf8.encode_cons, h.encodeChar, hr]

theorem encode_of_decodeAt {pos : Nat} {bytes : List UInt8} {text : List Char}
    (h : decodeAt pos bytes = .ok text) : encode text = bytes := by
  fun_induction decodeAt pos bytes generalizing text with
  | case1 pos => cases h; rfl
  | case2 pos a r ha ih =>
    obtain ⟨tail, hr, rfl⟩ := map_eq_ok h
    exact (Form.one (UInt8.lt_iff_toNat_lt.mp ha)).encode_cons (ih hr)
  | case5 pos a _ h₂ h₃ b r hb ih =>
    obtain ⟨tail, hr, rfl⟩ := map_eq_ok h
    exact (Form.two (le_of_not_lt h₂) (UInt8.lt_iff_toNat_lt.mp h₃) hb).encode_cons (ih hr)
  | case9 pos a _ _ h₃ h₄ b hb c r hc ih =>
    obtain ⟨tail, hr, rfl⟩ := map_eq_ok h
    exact (Form.three (le_of_not_lt h₃) (UInt8.lt_iff_toNat_lt.mp h₄) hb hc).encode_cons (ih hr)
  | case15 pos a _ _ _ h₄ h₅ b hb c hc d r hd ih =>
    obtain ⟨tail, hr, rfl⟩ := map_eq_ok h
    exact (Form.four (le_of_not_lt h₄) (UInt8.lt_iff_toNat_lt.mp h₅) hb hc hd).encode_cons (ih hr)
  -- every other way through the bytes ends in a fault
  | _ => cases h

/-- **Bytes that can be read** are those of the text that is read. -/
theorem encode_of_decode {bytes : List UInt8} {text : List Char} (h : decode bytes = .ok text) :
    encode text = bytes :=
  encode_of_decodeAt h

/-! ## Valid UTF-8 -/

theorem encodeChar_eq (c : Char) : encodeChar c = String.utf8EncodeChar c := by
  have hc := toNat_lt c
  have hv : c.val.toNat = c.toNat := rfl
  have hbyte : ∀ {m n : Nat}, m = n → UInt8.ofNat m = UInt8.ofNat n := fun h => congrArg _ h
  rw [encodeChar, String.utf8EncodeChar]
  simp only [hv]
  split
  · rw [if_pos (by omega)]
  · split
    · rw [if_neg (by omega), if_pos (by omega)]
      rw [hbyte (show 0xC0 + c.toNat / 64 = c.toNat / 64 % 0x20 + 0xC0 by omega),
        Nat.add_comm 0x80]
    · split
      · rw [if_neg (by omega), if_neg (by omega), if_pos (by omega)]
        rw [hbyte (show 0xE0 + c.toNat / 4096 = c.toNat / 4096 % 0x10 + 0xE0 by omega),
          Nat.add_comm 0x80, Nat.add_comm 0x80]
      · rw [if_neg (by omega), if_neg (by omega), if_neg (by omega)]
        rw [hbyte (show 0xF0 + c.toNat / 262144 = c.toNat / 262144 % 8 + 0xF0 by omega),
          Nat.add_comm 0x80, Nat.add_comm 0x80, Nat.add_comm 0x80]

theorem toByteArray_encode (text : List Char) : (encode text).toByteArray = text.utf8Encode := by
  rw [encode, List.utf8Encode, funext encodeChar_eq]

/-- **The bytes that can be read are the valid ones.** -/
theorem exists_decode_iff {bytes : List UInt8} :
    (∃ text, decode bytes = .ok text) ↔ bytes.toByteArray.IsValidUTF8 := by
  constructor
  · rintro ⟨text, h⟩
    exact ⟨text, by rw [← toByteArray_encode, encode_of_decode h]⟩
  · rintro ⟨text, h⟩
    refine ⟨text, ?_⟩
    rw [← toByteArray_encode] at h
    rw [List.toByteArray_inj.mp h, decode_encode]

end Handout.Utf8
