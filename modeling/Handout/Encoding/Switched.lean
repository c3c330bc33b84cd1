import Handout.Encoding.Fault
import Handout.Encoding.Kanji

/-!
# Text that switches between sets of characters

The Japanese encoding of seven bits. An escape sequence switches to ASCII, to the Roman set, which has
the yen sign and the overline on two of the codes of ASCII, or to the set of two bytes to a character.
Control characters pass in every set.

What starts as an escape sequence ends at a capital letter or an at sign, and is refused when it names
no set or is too long. An escape before any other character starts none: it is a character, and so is
every byte from there to the next capital letter or at sign, those from 0x80 on among them. So a text
that was read may have characters that the encoding has no bytes for.

A text is written with the switches that it needs and no switch back at its end.
-/

namespace Handout.Switched

/-- The sets of characters. -/
inductive CharSet
  | ascii
  | roman
  | kanji
  deriving DecidableEq, Repr

/-- The escape that starts a switch. -/
def escape : UInt8 := 0x1B

/-- Whether a byte ends an escape sequence. -/
def endsEscape (b : UInt8) : Bool :=
  b == 0x40 || (0x41 ≤ b && b ≤ 0x5A)

/-- Whether a byte after an escape is that of an escape sequence: one of `$`, `&`, `(`, `)` and `.`. -/
def startsSequence (b : UInt8) : Bool :=
  b == 0x24 || b == 0x26 || b == 0x28 || b == 0x29 || b == 0x2E

/-! ## Escape sequences -/

/-- How an escape sequence ends. -/
inductive SequenceEnd
  /-- With its last byte, which is the one of this number. -/
  | after (length : Nat)
  /-- Not within the most bytes that one may have. -/
  | tooLong
  /-- Not before the data does. -/
  | cutOff
  deriving DecidableEq, Repr

/-- The most bytes of an escape sequence. -/
def mostEscape : Nat := 16

/-- Where an escape sequence ends, from its byte of the given number on. The at sign after an
ampersand does not end it, and the byte after that one is not looked at: `skip` counts the bytes that
are passed over. -/
def sequenceEnd (skip i : Nat) : List UInt8 → SequenceEnd
  | [] => if mostEscape ≤ i + skip then .tooLong else .cutOff
  | b :: r =>
    if mostEscape ≤ i then .tooLong
    else
      match skip with
      | skip + 1 => sequenceEnd skip (i + 1) r
      | 0 =>
        if endsEscape b then .after (i + 1)
        else if b = 0x26 ∧ r.head? = some 0x40 then sequenceEnd 2 (i + 1) r
        else sequenceEnd 0 (i + 1) r

/-- The set of two bytes that a letter names: that of 1978 or that of 1983, which are read alike. -/
def isKanji (b : UInt8) : Bool :=
  b == 0x40 || b == 0x42

/-- The set in place after an escape sequence, given without its escape, where it names one. The sets
that `)` names are those of a second place, which nothing switches to. -/
def switch? (set : CharSet) : List UInt8 → Option CharSet
  | [0x28, 0x42] => some .ascii
  | [0x28, 0x4A] => some .roman
  | [0x29, 0x42] | [0x29, 0x4A] => some set
  | [0x24, b] => if isKanji b then some .kanji else none
  | [0x24, 0x28, b] => if isKanji b then some .kanji else none
  | [0x24, 0x29, b] => if isKanji b then some set else none
  | [_, _, 0x1B, 0x24, 0x42] => some .kanji
  | _ => none

/-! ## Reading -/

/-- What a reader is in: a set, and the number of bytes that belong to what was read before them. In
`through` bytes are characters up to the end of what an escape started. -/
structure Mode where
  set : CharSet
  through : Bool
  skip : Nat
  deriving DecidableEq, Repr

/-- What is read first. -/
def Mode.start : Mode := ⟨.ascii, false, 0⟩

/-- The character of a byte in the Roman set. -/
def romanChar (b : UInt8) : Char :=
  if b = 0x5C then '\u00A5' else if b = 0x7E then '\u203E' else Char.ofNat b.toNat

/-- What a byte and those after it are. -/
inductive Item
  /-- A character, and the mode after its first byte. -/
  | char (c : Char) (m : Mode)
  /-- No character. -/
  | pass (m : Mode)
  /-- This many bytes that stand for nothing. -/
  | illegal (count : Nat)
  /-- The start of something that the data ends in. -/
  | cutOff
  deriving Repr

/-- What an escape and the bytes after it are. -/
def escaped (set : CharSet) (rest : List UInt8) : Item :=
  match rest with
  | [] => .cutOff
  | b :: _ =>
    if startsSequence b then
      match sequenceEnd 0 1 rest with
      | .cutOff => .cutOff
      | .tooLong => .illegal 1
      | .after n =>
        match switch? set (rest.take (n - 1)) with
        | some set => .pass ⟨set, false, n - 1⟩
        | none => .illegal n
    else .char (Char.ofNat escape.toNat) ⟨set, true, 0⟩

/-- What a byte is in a mode, with the bytes after it. -/
def read (m : Mode) (b : UInt8) (rest : List UInt8) : Item :=
  match m.skip with
  | skip + 1 => .pass { m with skip }
  | 0 =>
    if m.through then .char (Char.ofNat b.toNat) { m with through := !endsEscape b }
    else if b = escape then escaped m.set rest
    else if b < 0x20 then .char (Char.ofNat b.toNat) m
    else if 0x80 ≤ b then .illegal 1
    else
      match m.set with
      | .ascii => .char (Char.ofNat b.toNat) m
      | .roman => .char (romanChar b) m
      | .kanji =>
        match rest with
        | [] => .cutOff
        | b' :: _ =>
          match Kanji.char? b b' with
          | some c => .char c { m with skip := 1 }
          | none => .illegal 2

/-- The characters of bytes that stand at a position, in a mode. -/
def decodeAt (m : Mode) (pos : Nat) : List UInt8 → Except DecodeFault (List Char)
  | [] => .ok []
  | b :: r =>
    match read m b r with
    | .char c m => (decodeAt m (pos + 1) r).map (c :: ·)
    | .pass m => decodeAt m (pos + 1) r
    | .illegal n => .error ⟨.switched, pos, pos + n, b, .illegalSequence⟩
    | .cutOff => .error ⟨.switched, pos, pos + 1 + r.length, b, .incompleteSequence⟩

/-- The text of bytes. -/
def decode (bytes : List UInt8) : Except DecodeFault (List Char) :=
  decodeAt .start 0 bytes

/-! ## Writing -/

/-- The set that a character is written in, with its bytes there. -/
def code? (c : Char) : Option (CharSet × List UInt8) :=
  if c.toNat < 0x80 then some (.ascii, [.ofNat c.toNat])
  else
    match Kanji.code? c with
    | some (a, b) => some (.kanji, [a, b])
    | none =>
      if c = '\u00A5' then some (.roman, [0x5C])
      else if c = '\u203E' then some (.roman, [0x7E])
      else none

/-- The escape sequence that switches to a set. -/
def CharSet.sequence : CharSet → List UInt8
  | .ascii => [escape, 0x28, 0x42]
  | .roman => [escape, 0x28, 0x4A]
  | .kanji => [escape, 0x24, 0x42]

/-- The bytes of a text that stands at a position, where a set is in place. -/
def encodeAt (set : CharSet) (pos : Nat) : List Char → Except EncodeFault (List UInt8)
  | [] => .ok []
  | c :: r =>
    match code? c with
    | some (s, code) =>
      (encodeAt s (pos + 1) r).map ((if s = set then [] else s.sequence) ++ code ++ ·)
    | none => .error ⟨.switched, pos, pos + 1, c, .illegalSequence⟩

/-- The bytes of a text. -/
def encode (text : List Char) : Except EncodeFault (List UInt8) :=
  encodeAt .ascii 0 text

end Handout.Switched
