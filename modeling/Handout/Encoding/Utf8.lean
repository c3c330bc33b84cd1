import Handout.Encoding.Fault

/-!
# UTF-8

The strict decoder: no overlong form, no surrogate, nothing above U+10FFFF. A fault covers the
longest start of a character that is there, so that it names the first byte which no character can
go on with, or the end of the data.
-/

namespace Handout.Utf8

/-- A byte that goes on a character. -/
def isTail (b : UInt8) : Bool :=
  0x80 ≤ b && b < 0xC0

/-- A byte that may stand second in a character of three or four bytes with the given first byte. -/
def isSecond (first b : UInt8) : Bool :=
  isTail b &&
    (if first = 0xE0 then 0xA0 ≤ b
    else if first = 0xED then b < 0xA0
    else if first = 0xF0 then 0x90 ≤ b
    else if first = 0xF4 then b < 0x90
    else true)

/-- The bits that a tail byte carries. -/
def tailBits (b : UInt8) : Nat := b.toNat - 0x80

/-- The characters of bytes that stand at a position, one after the other. -/
def decodeAt (pos : Nat) : List UInt8 → Except DecodeFault (List Char)
  | [] => .ok []
  | a :: r =>
    let fault := fun (n : Nat) (why : FaultReason) =>
      .error (⟨.utf8, pos, pos + n, a, why⟩ : DecodeFault)
    if a < 0x80 then (decodeAt (pos + 1) r).map (Char.ofNat a.toNat :: ·)
    else if a < 0xC2 then fault 1 .badStart
    else if a < 0xE0 then
      match r with
      | [] => fault 1 .endOfData
      | b :: r =>
        if isTail b then
          (decodeAt (pos + 2) r).map (Char.ofNat ((a.toNat - 0xC0) * 64 + tailBits b) :: ·)
        else fault 1 .badContinuation
    else if a < 0xF0 then
      match r with
      | [] => fault 1 .endOfData
      | b :: r =>
        if isSecond a b then
          match r with
          | [] => fault 2 .endOfData
          | c :: r =>
            if isTail c then
              (decodeAt (pos + 3) r).map
                (Char.ofNat (((a.toNat - 0xE0) * 64 + tailBits b) * 64 + tailBits c) :: ·)
            else fault 2 .badContinuation
        else fault 1 .badContinuation
    else if a < 0xF5 then
      match r with
      | [] => fault 1 .endOfData
      | b :: r =>
        if isSecond a b then
          match r with
          | [] => fault 2 .endOfData
          | c :: r =>
            if isTail c then
              match r with
              | [] => fault 3 .endOfData
              | d :: r =>
                if isTail d then
                  (decodeAt (pos + 4) r).map
                    (Char.ofNat
                      ((((a.toNat - 0xF0) * 64 + tailBits b) * 64 + tailBits c) * 64 + tailBits d) :: ·)
                else fault 3 .badContinuation
            else fault 2 .badContinuation
        else fault 1 .badContinuation
    else fault 1 .badStart

/-- **The text of bytes.** -/
def decode (bytes : List UInt8) : Except DecodeFault (List Char) :=
  decodeAt 0 bytes

/-- The bytes of a character. -/
def encodeChar (c : Char) : List UInt8 :=
  let v := c.toNat
  if v < 0x80 then [.ofNat v]
  else if v < 0x800 then [.ofNat (0xC0 + v / 64), .ofNat (0x80 + v % 64)]
  else if v < 0x10000 then
    [.ofNat (0xE0 + v / 4096), .ofNat (0x80 + v / 64 % 64), .ofNat (0x80 + v % 64)]
  else
    [.ofNat (0xF0 + v / 262144), .ofNat (0x80 + v / 4096 % 64), .ofNat (0x80 + v / 64 % 64),
      .ofNat (0x80 + v % 64)]

/-- **The bytes of a text.** -/
def encode (text : List Char) : List UInt8 :=
  text.flatMap encodeChar

/-- The mark that may stand before a text. -/
def mark : List UInt8 := [0xEF, 0xBB, 0xBF]

/-! ## Reading in pieces -/

/-- How many bytes are read at a time where a text is not read whole. -/
def pieceSize : Nat := 8192

/-- Decoding of a piece after the bytes kept from the piece before. A character that the data ends
in is kept for the next piece, unless this one is the last; the positions of a fault count from the
first byte that was kept. The number bounds the pieces. -/
def decodePieces : Nat → List UInt8 → List UInt8 → Except DecodeFault (List Char)
  | 0, kept, _ => decode kept
  | n + 1, kept, rest =>
    if rest.isEmpty then decode kept
    else
      let piece := kept ++ rest.take pieceSize
      match decode piece with
      | .ok text => (decodePieces n [] (rest.drop pieceSize)).map (text ++ ·)
      | .error f =>
        if f.reason = .endOfData then
          match decode (piece.take f.first) with
          | .ok text =>
            (decodePieces n (piece.drop f.first) (rest.drop pieceSize)).map (text ++ ·)
          | .error f => .error f
        else .error f

/-- The text of bytes that are read in pieces. -/
def decodeInPieces (bytes : List UInt8) : Except DecodeFault (List Char) :=
  decodePieces (bytes.length / pieceSize + 1) [] bytes

end Handout.Utf8
