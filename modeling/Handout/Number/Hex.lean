/-!
# Hexadecimal numbers

Fixed-width hexadecimal digits in lower case, for escapes and for the bytes named in messages.
-/

namespace Handout

/-- The digit of a value below sixteen. -/
def Hex.digit (n : Nat) : Char :=
  if n < 10 then Char.ofNat (48 + n) else Char.ofNat (87 + n)

/-- The last digits of a number, as many as asked for. -/
def Hex.digits : Nat → Nat → List Char
  | 0, _ => []
  | w + 1, n => Hex.digits w (n / 16) ++ [Hex.digit (n % 16)]

/-- A number in as many digits as asked for. -/
def Hex.text (width n : Nat) : String :=
  String.ofList (Hex.digits width n)

/-- The value of a hexadecimal digit. -/
def Hex.value? (c : Char) : Option Nat :=
  if '0' ≤ c ∧ c ≤ '9' then some (c.toNat - 48)
  else if 'a' ≤ c ∧ c ≤ 'f' then some (c.toNat - 87)
  else if 'A' ≤ c ∧ c ≤ 'F' then some (c.toNat - 55)
  else none

end Handout
