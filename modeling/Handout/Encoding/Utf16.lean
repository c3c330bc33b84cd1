import Handout.Encoding.Fault

/-!
# UTF-16

Units of two bytes in either order, a pair of surrogates for a character above U+FFFF. Data of an
odd length is cut off in its last byte, and a surrogate without its partner is refused.
-/

namespace Handout.Utf16

/-- The order of the two bytes of a unit. -/
inductive Order
  | little
  | big
  deriving DecidableEq, Repr

/-- The codec of an order. -/
def Order.codec : Order → CodecName
  | .little => .utf16Little
  | .big => .utf16Big

/-- The unit of two bytes. -/
def Order.join : Order → UInt8 → UInt8 → Nat
  | .little, a, b => b.toNat * 256 + a.toNat
  | .big, a, b => a.toNat * 256 + b.toNat

/-- The two bytes of a unit. -/
def Order.split : Order → Nat → List UInt8
  | .little, u => [.ofNat (u % 256), .ofNat (u / 256)]
  | .big, u => [.ofNat (u / 256), .ofNat (u % 256)]

/-- The first half of a pair. -/
def isHigh (u : Nat) : Bool := 0xD800 ≤ u && u < 0xDC00

/-- The second half of a pair. -/
def isLow (u : Nat) : Bool := 0xDC00 ≤ u && u < 0xE000

/-- The characters of bytes that stand at a position, one after the other. -/
def decodeAt (o : Order) (pos : Nat) : List UInt8 → Except DecodeFault (List Char)
  | [] => .ok []
  | [a] => .error ⟨o.codec, pos, pos + 1, a, .truncated⟩
  | a :: b :: r =>
    let u := o.join a b
    if isLow u then .error ⟨o.codec, pos, pos + 2, a, .badEncoding⟩
    else if isHigh u then
      match r with
      | c :: d :: r =>
        let w := o.join c d
        if isLow w then
          (decodeAt o (pos + 4) r).map
            (Char.ofNat (0x10000 + (u - 0xD800) * 1024 + (w - 0xDC00)) :: ·)
        else .error ⟨o.codec, pos, pos + 2, a, .loneSurrogate⟩
      | r => .error ⟨o.codec, pos, pos + 2 + r.length, a, .endOfData⟩
    else (decodeAt o (pos + 2) r).map (Char.ofNat u :: ·)

/-- The text of bytes in an order. -/
def decode (o : Order) (bytes : List UInt8) : Except DecodeFault (List Char) :=
  decodeAt o 0 bytes

/-- The bytes of a character. -/
def encodeChar (o : Order) (c : Char) : List UInt8 :=
  let v := c.toNat
  if v < 0x10000 then o.split v
  else o.split (0xD800 + (v - 0x10000) / 1024) ++ o.split (0xDC00 + (v - 0x10000) % 1024)

/-- The bytes of a text in an order. -/
def encode (o : Order) (text : List Char) : List UInt8 :=
  text.flatMap (encodeChar o)

/-- The order that a mark at the start of the data tells. -/
def markedOrder? : List UInt8 → Option Order
  | a :: b :: _ =>
    if a = 0xFF ∧ b = 0xFE then some .little
    else if a = 0xFE ∧ b = 0xFF then some .big
    else none
  | _ => none

end Handout.Utf16
