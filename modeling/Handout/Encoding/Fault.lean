import Handout.Number.Hex

/-!
# Faults of encoded text

Why bytes are no text of an encoding, or a text has no bytes in it, and where: the first place that
is at fault, and the first one after the fault. Places are counted from the start of what was given.
-/

namespace Handout

/-- The tables and algorithms that a fault may come from, by the name that messages give them. -/
inductive CodecName
  | utf8
  | ascii
  | latin1
  | table
  | utf16Little
  | utf16Big
  | switched
  deriving DecidableEq, Repr

/-- The name of a codec in messages. -/
def CodecName.text : CodecName → String
  | .utf8 => "utf-8"
  | .ascii => "ascii"
  | .latin1 => "latin-1"
  | .table => "charmap"
  | .utf16Little => "utf-16-le"
  | .utf16Big => "utf-16-be"
  | .switched => "iso2022_jp"

/-- What is wrong with some bytes or characters. -/
inductive FaultReason
  | badStart
  | badContinuation
  | endOfData
  | notAscii
  | notByte
  | undefined
  | truncated
  | loneSurrogate
  | badEncoding
  | illegalSequence
  | incompleteSequence
  deriving DecidableEq, Repr

/-- The words for a reason. -/
def FaultReason.text : FaultReason → String
  | .badStart => "invalid start byte"
  | .badContinuation => "invalid continuation byte"
  | .endOfData => "unexpected end of data"
  | .notAscii => "ordinal not in range(128)"
  | .notByte => "ordinal not in range(256)"
  | .undefined => "character maps to <undefined>"
  | .truncated => "truncated data"
  | .loneSurrogate => "illegal UTF-16 surrogate"
  | .badEncoding => "illegal encoding"
  | .illegalSequence => "illegal multibyte sequence"
  | .incompleteSequence => "incomplete multibyte sequence"

/-- Where a fault is: the one thing that is at fault, or the things from the first to the last. -/
def faultPlace (one many : String) (first stop : Nat) : String :=
  if stop = first + 1 then one ++ " in position " ++ toString first
  else many ++ " in position " ++ toString first ++ "-" ++ toString (stop - 1)

/-- A fault of bytes: those from `first` to before `stop`, the first of which is `byte`. -/
structure DecodeFault where
  codec : CodecName
  first : Nat
  stop : Nat
  byte : UInt8
  reason : FaultReason
  deriving DecidableEq, Repr

/-- The message of a fault, which names the byte when there is only one. -/
def DecodeFault.message (f : DecodeFault) : String :=
  "'" ++ f.codec.text ++ "' codec can't decode " ++
    faultPlace ("byte 0x" ++ Hex.text 2 f.byte.toNat) "bytes" f.first f.stop ++ ": " ++ f.reason.text

/-- A fault of a text: the characters from `first` to before `stop`, the first of which is `char`. -/
structure EncodeFault where
  codec : CodecName
  first : Nat
  stop : Nat
  char : Char
  reason : FaultReason
  deriving DecidableEq, Repr

/-- The escape that stands for a character in messages. -/
def EncodeFault.escape (c : Char) : String :=
  let v := c.toNat
  if v < 0x100 then "\\x" ++ Hex.text 2 v
  else if v < 0x10000 then "\\u" ++ Hex.text 4 v
  else "\\U" ++ Hex.text 8 v

/-- The message of a fault, which names the character when there is only one. -/
def EncodeFault.message (f : EncodeFault) : String :=
  "'" ++ f.codec.text ++ "' codec can't encode " ++
    faultPlace ("character '" ++ escape f.char ++ "'") "characters" f.first f.stop ++ ": " ++
    f.reason.text

end Handout
