import Handout.Encoding.Fault

/-!
# Encodings of one byte to a character

ASCII, Latin-1, in which every byte is the code point of its character, and the Western code page
1252, which puts other characters on some of the codes from 0x80 to 0x9F and leaves five undefined.
-/

namespace Handout.SingleByte

/-- A table of one byte to a character. -/
inductive Table
  | ascii
  | latin1
  | western
  deriving DecidableEq, Repr

/-- The characters of the western code page from 0x80 to 0x9F; zero stands for none. -/
def westernHigh : List Nat := [
  0x20AC, 0, 0x201A, 0x0192, 0x201E, 0x2026, 0x2020, 0x2021,
  0x02C6, 0x2030, 0x0160, 0x2039, 0x0152, 0, 0x017D, 0,
  0, 0x2018, 0x2019, 0x201C, 0x201D, 0x2022, 0x2013, 0x2014,
  0x02DC, 0x2122, 0x0161, 0x203A, 0x0153, 0, 0x017E, 0x0178]

/-- The character of a byte. -/
def Table.char? : Table → UInt8 → Option Char
  | .ascii, b => if b < 0x80 then some (Char.ofNat b.toNat) else none
  | .latin1, b => some (Char.ofNat b.toNat)
  | .western, b =>
    if b < 0x80 ∨ 0xA0 ≤ b then some (Char.ofNat b.toNat)
    else
      match westernHigh[b.toNat - 0x80]? with
      | some n => if n = 0 then none else some (Char.ofNat n)
      | none => none

/-- The fault of a byte that has no character. -/
def Table.fault (t : Table) (pos : Nat) (b : UInt8) : DecodeFault :=
  match t with
  | .western => ⟨.table, pos, pos + 1, b, .undefined⟩
  | _ => ⟨.ascii, pos, pos + 1, b, .notAscii⟩

/-- The characters of bytes that stand at a position. -/
def decodeAt (t : Table) (pos : Nat) : List UInt8 → Except DecodeFault (List Char)
  | [] => .ok []
  | b :: r =>
    match t.char? b with
    | some c => (decodeAt t (pos + 1) r).map (c :: ·)
    | none => .error (t.fault pos b)

/-- The text of bytes. -/
def decode (t : Table) (bytes : List UInt8) : Except DecodeFault (List Char) :=
  decodeAt t 0 bytes

/-- The byte of a character. -/
def Table.byte? (t : Table) (c : Char) : Option UInt8 :=
  ((List.range 256).map UInt8.ofNat).find? fun b => t.char? b == some c

/-- The fault of a character that has no byte, with the number of those that follow it and have none
either. -/
def Table.lack (t : Table) (pos : Nat) (c : Char) (more : Nat) : EncodeFault :=
  match t with
  | .ascii => ⟨.ascii, pos, pos + 1 + more, c, .notAscii⟩
  | .latin1 => ⟨.latin1, pos, pos + 1 + more, c, .notByte⟩
  | .western => ⟨.table, pos, pos + 1 + more, c, .undefined⟩

/-- The bytes of a text that stands at a position. -/
def encodeAt (t : Table) (pos : Nat) : List Char → Except EncodeFault (List UInt8)
  | [] => .ok []
  | c :: r =>
    match t.byte? c with
    | some b => (encodeAt t (pos + 1) r).map (b :: ·)
    | none => .error (t.lack pos c (r.takeWhile fun d => (t.byte? d).isNone).length)

/-- The bytes of a text. -/
def encode (t : Table) (text : List Char) : Except EncodeFault (List UInt8) :=
  encodeAt t 0 text

end Handout.SingleByte
