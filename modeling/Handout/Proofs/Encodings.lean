import Handout.Encoding
import Handout.Proofs.Acts
import Handout.Proofs.Utf16

/-!
# Texts that are written

A described encoding that lacks characters gives none of them when it reads, but for the one that
switches. So whatever is left of a text that was read has bytes in the same encoding
(`Encoding.exists_encode`), and writing it back cannot fail for want of a character. What was written
is read again as it was (`Encoding.rereads`). The encoding that switches has neither property: it
reads characters that it has no bytes for, and writes an escape that it then takes for the start of a
switch.

Bytes that can be read need not be those that their text is written in, since a mark may be dropped
or put. They are just where they begin with the mark that the encoding writes
(`Encoding.encode_eq_self_iff`).

**What it does not establish.** Nothing is said here of a codec that is a parameter.
-/

namespace Handout

namespace SingleByte

theorem isSome_byte? {t : Table} {b : UInt8} {c : Char} (h : t.char? b = some c) :
    (t.byte? c).isSome := by
  refine List.find?_isSome.mpr ⟨b, List.mem_map.mpr ⟨b.toNat, ?_, UInt8.ofNat_toNat⟩, by simp [h]⟩
  exact List.mem_range.mpr b.toNat_lt

theorem isSome_byte?_of_decodeAt {t : Table} {pos : Nat} {bytes : List UInt8} {text : List Char}
    (h : decodeAt t pos bytes = .ok text) : ∀ c ∈ text, (t.byte? c).isSome := by
  induction bytes generalizing pos text with
  | nil => cases h; simp
  | cons b r ih =>
    rw [decodeAt] at h
    cases hb : t.char? b with
    | none => rw [hb] at h; cases h
    | some c =>
      simp only [hb] at h
      cases hr : decodeAt t (pos + 1) r with
      | error f => rw [hr] at h; cases h
      | ok rest =>
        rw [hr] at h
        cases h
        exact List.forall_mem_cons.mpr ⟨isSome_byte? hb, ih hr⟩

theorem exists_encodeAt {t : Table} {text : List Char} (h : ∀ c ∈ text, (t.byte? c).isSome)
    (pos : Nat) : ∃ bytes, encodeAt t pos text = .ok bytes := by
  induction text generalizing pos with
  | nil => exact ⟨[], rfl⟩
  | cons c r ih =>
    obtain ⟨hc, hr⟩ := List.forall_mem_cons.mp h
    obtain ⟨b, hb⟩ := Option.isSome_iff_exists.mp hc
    obtain ⟨bytes, hbytes⟩ := ih hr (pos + 1)
    refine ⟨b :: bytes, ?_⟩
    simp only [encodeAt, hb, hbytes]
    rfl

theorem char?_of_byte? {t : Table} {b : UInt8} {c : Char} (h : t.byte? c = some b) :
    t.char? b = some c := by
  have hfound := List.find?_some h
  exact eq_of_beq hfound

theorem decodeAt_of_encodeAt {t : Table} {text : List Char} {bytes : List UInt8} {pos : Nat}
    (h : encodeAt t pos text = .ok bytes) (pos' : Nat) : decodeAt t pos' bytes = .ok text := by
  induction text generalizing pos pos' bytes with
  | nil => cases h; rfl
  | cons c r ih =>
    rw [encodeAt] at h
    cases hb : t.byte? c with
    | none => rw [hb] at h; cases h
    | some b =>
      simp only [hb] at h
      obtain ⟨rest, hrest, rfl⟩ := Except.map_eq_ok.mp h
      simp only [decodeAt, char?_of_byte? hb, ih hrest]
      rfl

/-- No character of the western page has two codes in it. -/
theorem westernHigh_injective : ∀ i < 32, ∀ j < 32, westernHigh[i]? = westernHigh[j]? →
    westernHigh[i]? ≠ some 0 → i = j := by
  decide

/-- The characters of the western page are beyond the codes of bytes. -/
theorem westernHigh_bounds : ∀ n ∈ westernHigh, n ≠ 0 → 0x100 ≤ n ∧ n < 0xD800 := by
  decide

/-- A byte is the code point of its character, or it stands for one of the western page. -/
theorem toNat_of_char? {t : Table} {b : UInt8} {c : Char} (h : t.char? b = some c) :
    c.toNat = b.toNat ∨
      0x100 ≤ c.toNat ∧ 0x80 ≤ b.toNat ∧ b.toNat < 0xA0 ∧
        westernHigh[b.toNat - 0x80]? = some c.toNat := by
  have hown : (Char.ofNat b.toNat).toNat = b.toNat :=
    Utf8.toNat_char (.inl (Nat.lt_trans b.toNat_lt (by decide)))
  cases t with
  | ascii =>
    rw [Table.char?] at h
    split at h <;> cases h
    exact .inl hown
  | latin1 =>
    cases h
    exact .inl hown
  | western =>
    rw [Table.char?] at h
    split at h
    · cases h
      exact .inl hown
    next hrange =>
      split at h
      next n hn =>
        split at h <;> cases h
        next hzero =>
          have hbounds := westernHigh_bounds n (List.mem_of_getElem? hn) hzero
          rw [UInt8.lt_iff_toNat_lt, UInt8.le_iff_toNat_le, not_or] at hrange
          refine .inr ?_
          rw [Utf8.toNat_char (.inl hbounds.2)]
          exact ⟨hbounds.1, Nat.le_of_not_lt hrange.1, Nat.lt_of_not_le hrange.2, hn⟩
      next => cases h

/-- **No two bytes have one character.** -/
theorem char?_injective {t : Table} {a b : UInt8} {c : Char} (ha : t.char? a = some c)
    (hb : t.char? b = some c) : a = b := by
  have hsmall := a.toNat_lt
  have hsmall' := b.toNat_lt
  refine UInt8.toNat_inj.mp ?_
  rcases toNat_of_char? ha with ha | ⟨hlarge, ha, ha', hia⟩
  · rcases toNat_of_char? hb with hb | ⟨hlarge, -⟩
    · exact ha.symm.trans hb
    · omega
  · rcases toNat_of_char? hb with hb | ⟨-, hb, hb', hib⟩
    · omega
    · have hne : westernHigh[a.toNat - 0x80]? ≠ some 0 := by
        rw [hia]
        intro hzero
        have hc := Option.some.inj hzero
        omega
      have hplace := westernHigh_injective _ (by omega) _ (by omega) (hia.trans hib.symm) hne
      omega

theorem byte?_of_char? {t : Table} {b : UInt8} {c : Char} (h : t.char? b = some c) :
    t.byte? c = some b := by
  obtain ⟨a, ha⟩ := Option.isSome_iff_exists.mp (isSome_byte? h)
  rw [ha, char?_injective (char?_of_byte? ha) h]

theorem encodeAt_of_decodeAt {t : Table} {pos : Nat} {bytes : List UInt8} {text : List Char}
    (h : decodeAt t pos bytes = .ok text) (pos' : Nat) : encodeAt t pos' text = .ok bytes := by
  induction bytes generalizing pos pos' text with
  | nil => cases h; rfl
  | cons b r ih =>
    rw [decodeAt] at h
    cases hb : t.char? b with
    | none => rw [hb] at h; cases h
    | some c =>
      simp only [hb] at h
      obtain ⟨tail, hr, rfl⟩ := Utf8.map_eq_ok h
      simp only [encodeAt, byte?_of_char? hb, ih hr]
      rfl

end SingleByte

/-- **What is left of a text that was read can be written** in the encoding that it was in. -/
theorem Encoding.exists_encode {enc : Encoding} {bytes : List UInt8} {text new : List Char}
    (henc : enc ≠ .switched) (h : enc.decode bytes = .ok text) (hs : new.Sublist text) :
    ∃ b, enc.encode new = .ok b := by
  cases enc with
  | single t =>
    rw [decode, Except.mapError_eq_ok] at h
    have hall := SingleByte.isSome_byte?_of_decodeAt h
    obtain ⟨b, hb⟩ := SingleByte.exists_encodeAt (fun c hc => hall c (hs.subset hc)) 0
    exact ⟨b, Except.mapError_eq_ok.mpr hb⟩
  | switched => exact absurd rfl henc
  | _ => exact ⟨_, rfl⟩

/-- **Bytes are refused without a fault** by one encoding only, which misses its mark in what would be
a text without one. -/
theorem Encoding.decode_eq_other {enc : Encoding} {bytes : List UInt8} {reason : String} :
    enc.decode bytes = .error (.other reason) ↔
      reason = "UTF-16 stream does not start with BOM" ∧ enc = .utf16Marked ∧
        Utf16.markedOrder? bytes = none ∧ ∃ c r, Utf16.decode .little bytes = .ok (c :: r) := by
  -- a fault is no missing mark
  have hfault : ∀ x : Except DecodeFault (List Char),
      x.mapError (fun f => Refusal.fault f.message) ≠ .error (.other reason) := by
    rintro (f | text) h <;> cases h
  cases enc with
  | utf16Marked =>
    rw [decode]
    cases Utf16.markedOrder? bytes with
    | some o => simp [hfault]
    | none => rcases Utf16.decode .little bytes with f | _ | ⟨c, r⟩ <;> simp [eq_comm]
  | utf8 => simp [decode, hfault]
  | utf8Marked =>
    rw [decode]
    split
    · simp
    · simp [hfault]
  | utf16 o => simp [decode, hfault]
  | single t => simp [decode, hfault]
  | switched => simp [decode, hfault]

/-- One mark is dropped. -/
theorem Encoding.decode_mark_append (rest : List UInt8) :
    decode .utf8Marked (Utf8.mark ++ rest) =
      (Utf8.decode rest).mapError fun f => .fault f.message := by
  -- bytes that begin with the whole mark are no part of one
  have hwhole : ¬ ((Utf8.mark ++ rest).isPrefixOf Utf8.mark && Utf8.mark ++ rest ≠ Utf8.mark) =
      true := by
    rw [Bool.and_eq_true, List.isPrefixOf_iff_prefix, decide_eq_true_iff]
    rintro ⟨hshort, hne⟩
    refine hne (hshort.eq_of_length_le ?_)
    rw [List.length_append]
    exact Nat.le_add_right _ _
  rw [decode, if_neg hwhole, if_pos (List.isPrefixOf_iff_prefix.mpr (List.prefix_append _ _))]
  rfl

theorem Encoding.decode_utf8_encode (text : List Char) :
    utf8.decode (Utf8.encode text) = .ok text := by
  rw [decode, Utf8.decode_encode]
  rfl

/-- **What was written is read again** as it was. -/
theorem Encoding.rereads {enc : Encoding} (henc : enc ≠ .switched) : enc.codec.Rereads := by
  intro text bytes h
  change enc.encode text = .ok bytes at h
  change enc.decode bytes = .ok text
  cases enc with
  | utf8 =>
    cases h
    exact decode_utf8_encode text
  | utf8Marked =>
    cases h
    rw [decode_mark_append, Utf8.decode_encode]
    rfl
  | utf16Marked =>
    cases h
    change (Utf16.decodeAt .little 2 (Utf16.encode .little text)).mapError _ = _
    rw [Utf16.decodeAt_encode]
    rfl
  | utf16 o =>
    cases h
    rw [decode, Utf16.decode_encode]
    rfl
  | single t =>
    rw [encode, Except.mapError_eq_ok] at h
    rw [decode, Except.mapError_eq_ok]
    exact SingleByte.decodeAt_of_encodeAt h 0
  | switched => exact absurd rfl henc

/-- What the name of a described encoding asks for reads back what it writes, but for the one that
switches. -/
theorem Codec.rereads_of_described [Codecs] {name : String} {enc : Encoding} {codec : Codec}
    (hname : Encoding.ofName? name = some enc) (henc : enc ≠ .switched)
    (h : Codec.ofName? name = some codec) : codec.Rereads := by
  rw [Codec.eq_of_described hname h]
  exact Encoding.rereads henc

/-- The mark that an encoding writes before every text. -/
def Encoding.mark : Encoding → List UInt8
  | .utf8Marked => Utf8.mark
  | .utf16Marked => [0xFF, 0xFE]
  | _ => []

/-- **Bytes that can be read are those of their text** just where they begin with the mark that is
written. -/
theorem Encoding.encode_eq_self_iff {enc : Encoding} {bytes : List UInt8} {text : List Char}
    (henc : enc ≠ .switched) (h : enc.decode bytes = .ok text) :
    enc.encode text = .ok bytes ↔ enc.mark <+: bytes := by
  cases enc with
  | utf8 =>
    rw [decode, Except.mapError_eq_ok] at h
    exact iff_of_true (congrArg Except.ok (Utf8.encode_of_decode h)) List.nil_prefix
  | utf8Marked =>
    constructor
    · intro he
      cases he
      exact List.prefix_append _ _
    · rintro ⟨rest, rfl⟩
      rw [mark, decode_mark_append] at h
      rw [Except.mapError_eq_ok] at h
      exact congrArg (fun r => Except.ok (Utf8.mark ++ r)) (Utf8.encode_of_decode h)
  | utf16Marked =>
    constructor
    · intro he
      cases he
      exact List.prefix_append [0xFF, 0xFE] _
    · rintro ⟨rest, rfl⟩
      rw [decode] at h
      change (Utf16.decodeAt .little 2 rest).mapError _ = _ at h
      rw [Except.mapError_eq_ok] at h
      exact congrArg (fun r => Except.ok ([0xFF, 0xFE] ++ r)) (Utf16.encode_of_decodeAt h)
  | utf16 o =>
    rw [decode, Except.mapError_eq_ok] at h
    exact iff_of_true (congrArg Except.ok (Utf16.encode_of_decode h)) List.nil_prefix
  | single t =>
    rw [decode, Except.mapError_eq_ok] at h
    rw [encode, Except.mapError_eq_ok]
    exact iff_of_true (SingleByte.encodeAt_of_decodeAt h 0) List.nil_prefix
  | switched => exact absurd rfl henc

end Handout
