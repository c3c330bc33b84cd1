/-!
# Base 64

Bytes written in sixty-four characters, six bits each. Characters outside the alphabet say nothing
and are passed over. Equals signs that fill up a group of four end the data; without them the last
group must be whole.
-/

namespace Handout.Base64

/-- The six bits that a character stands for. -/
def value? (c : Char) : Option Nat :=
  if 'A' ≤ c ∧ c ≤ 'Z' then some (c.toNat - 65)
  else if 'a' ≤ c ∧ c ≤ 'z' then some (c.toNat - 71)
  else if '0' ≤ c ∧ c ≤ '9' then some (c.toNat + 4)
  else if c = '+' then some 62
  else if c = '/' then some 63
  else none

/-- A group of four characters in progress. -/
structure Group where
  /-- How many characters of the alphabet are in it. -/
  size : Nat
  /-- The bits that belong to no whole byte yet. -/
  bits : Nat
  /-- How many equals signs came last. -/
  pads : Nat

/-- The group before any character. -/
def Group.start : Group := ⟨0, 0, 0⟩

/-- A group with one more character of the alphabet: the byte that is now whole, if one is. -/
def Group.take (g : Group) (v : Nat) : Option UInt8 × Group :=
  match g.size with
  | 0 => (none, ⟨1, v, 0⟩)
  | 1 => (some (.ofNat (g.bits * 4 + v / 16)), ⟨2, v % 16, 0⟩)
  | 2 => (some (.ofNat (g.bits * 16 + v / 4)), ⟨3, v % 4, 0⟩)
  | _ => (some (.ofNat (g.bits * 64 + v)), ⟨0, 0, 0⟩)

/-- The bytes of a text after a group in progress. -/
def decodeFrom (g : Group) : List Char → Option (List UInt8)
  | [] => if g.size = 0 then some [] else none
  | c :: r =>
    if c = '=' then
      if g.size < 2 then decodeFrom g r
      else if 4 ≤ g.size + (g.pads + 1) then some []
      else decodeFrom { g with pads := g.pads + 1 } r
    else
      match value? c with
      | none => decodeFrom g r
      | some v =>
        match g.take v with
        | (none, g) => decodeFrom g r
        | (some b, g) => (decodeFrom g r).map (b :: ·)

/-- **The bytes that a text of ASCII stands for.** -/
def decode? (text : List Char) : Option (List UInt8) :=
  if text.all fun c => c.toNat < 0x80 then decodeFrom .start text else none

end Handout.Base64
