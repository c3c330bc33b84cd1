import Handout.Number.Hex
import Handout.Text.Printable

/-!
# Quoted text

A text between quotes, in which every character is printable. The quotes are single ones unless the
text holds a single quote and no double one. The quote in use and the backslash are escaped, line
feed, carriage return and tab have escapes of their own, and every other character that is not
printable is written by its code point in two, four or eight hexadecimal digits.
-/

namespace Handout.Quoted

/-- The quote that a text is written between. -/
def mark (text : List Char) : Char :=
  if text.contains '\'' && !text.contains '"' then '"' else '\''

/-- One character between the given quotes. -/
def encodeChar (quote c : Char) : List Char :=
  if c = quote ∨ c = '\\' then ['\\', c]
  else if c = '\n' then ['\\', 'n']
  else if c = '\r' then ['\\', 'r']
  else if c = '\t' then ['\\', 't']
  else if Printable.holds c then [c]
  else if c.toNat < 0x100 then '\\' :: 'x' :: Hex.digits 2 c.toNat
  else if c.toNat < 0x10000 then '\\' :: 'u' :: Hex.digits 4 c.toNat
  else '\\' :: 'U' :: Hex.digits 8 c.toNat

/-- A text between quotes. -/
def encode (text : String) : String :=
  let cs := text.toList
  let q := mark cs
  String.ofList (q :: cs.flatMap (encodeChar q) ++ [q])

/-- Bytes between quotes, after a `b`: those of printable ASCII as characters, the others escaped. -/
def encodeBytes (bytes : List UInt8) : String :=
  let cs := bytes.map fun b => Char.ofNat b.toNat
  let q := mark cs
  let one := fun c => if c.toNat < 0x7f then encodeChar q c else '\\' :: 'x' :: Hex.digits 2 c.toNat
  String.ofList ('b' :: q :: cs.flatMap one ++ [q])

end Handout.Quoted
