/-!
# Numbers of sixty-four bits

A binary floating-point number of fifty-three bits of precision, written out as its sign, an
integer mantissa and a power of two. Rounding is to nearest, ties to the even mantissa, and is done
in exact natural-number arithmetic on a ratio.

Two finite numbers are equal when sign, mantissa and exponent are: every value has one normal form,
in which the mantissa has fifty-three bits, or the exponent is the least one.
-/

namespace Handout

/-- A floating-point number; the finite one is `± mantissa · 2 ^ exponent`. -/
inductive Binary64
  | finite (negative : Bool) (mantissa : Nat) (exponent : Int)
  | infinite (negative : Bool)
  | nan
  deriving DecidableEq, Repr

namespace Binary64

/-- The least exponent of a finite number. -/
def leastExponent : Int := -1074

/-- The greatest exponent of a finite number. -/
def greatestExponent : Int := 971

/-- Zero, with a sign. -/
def zero (negative : Bool) : Binary64 := .finite negative 0 leastExponent

/-- A quotient rounded to the nearest integer, a half to the even one. -/
def roundHalfEven (n d : Nat) : Nat :=
  let q := n / d
  let r := n % d
  if 2 * r < d then q else if d < 2 * r then q + 1 else if q % 2 = 0 then q else q + 1

/-- A ratio divided by a power of two, as a ratio. -/
def scaleDown (n d : Nat) (e : Int) : Nat × Nat :=
  (n * Nat.pow 2 (-e).toNat, d * Nat.pow 2 e.toNat)

/-- The exponent at which a positive ratio has a mantissa of fifty-three bits, or the least one. -/
def exponentOf (n d : Nat) : Int :=
  let e : Int := (n.log2 : Int) - d.log2 - 52
  let (a, b) := scaleDown n d e
  max (if a < Nat.pow 2 52 * b then e - 1 else e) leastExponent

/-- **The number nearest to a ratio.** -/
def ofRatio (negative : Bool) (n d : Nat) : Binary64 :=
  if n = 0 then zero negative
  else
    let e := exponentOf n d
    let (a, b) := scaleDown n d e
    let m := roundHalfEven a b
    let (m, e) := if m = Nat.pow 2 53 then (Nat.pow 2 52, e + 1) else (m, e)
    if greatestExponent < e then .infinite negative else .finite negative m e

/-- **The number nearest to a decimal**, `n · 10 ^ e`. Decimals far outside the range are decided
by their number of digits alone. -/
def ofDecimal (negative : Bool) (n : Nat) (e : Int) : Binary64 :=
  if n = 0 then zero negative
  else
    let size : Int := e + (Nat.toDigits 10 n).length
    if 400 < size then .infinite negative
    else if size < -400 then zero negative
    else ofRatio negative (n * Nat.pow 10 e.toNat) (Nat.pow 10 (-e).toNat)

/-- The number nearest to an integer. -/
def ofInt (n : Int) : Binary64 :=
  ofRatio (n < 0) n.natAbs 1

/-- A number with its sign changed. -/
def neg : Binary64 → Binary64
  | .finite s m e => .finite (!s) m e
  | .infinite s => .infinite (!s)
  | .nan => .nan

/-- A finite number as an integer at a common exponent no greater than its own. -/
def atExponent (negative : Bool) (m : Nat) (e least : Int) : Int :=
  let v : Int := m * Nat.pow 2 (e - least).toNat
  if negative then -v else v

/-- An integer times a power of two, rounded; the sign is that of a zero. -/
def ofScaled (zeroSign : Bool) (v : Int) (e : Int) : Binary64 :=
  if v = 0 then zero zeroSign
  else ofRatio (v < 0) (v.natAbs * Nat.pow 2 e.toNat) (Nat.pow 2 (-e).toNat)

/-- The sum, rounded. -/
def add : Binary64 → Binary64 → Binary64
  | .nan, _ => .nan
  | _, .nan => .nan
  | .infinite s, .infinite t => if s = t then .infinite s else .nan
  | .infinite s, _ => .infinite s
  | _, .infinite t => .infinite t
  | .finite s m e, .finite t n f =>
    let least := min e f
    ofScaled (s && t) (atExponent s m e least + atExponent t n f least) least

/-- The product with a natural number, rounded. -/
def scale : Binary64 → Nat → Binary64
  | .nan, _ => .nan
  | .infinite s, k => if k = 0 then .nan else .infinite s
  | .finite s m e, k => ofScaled s (atExponent s (m * k) e e) e

/-- The integer that a number is, where it is one. -/
def toInt? : Binary64 → Option Int
  | .finite s m e =>
    let d := Nat.pow 2 (-e).toNat
    let n := m * Nat.pow 2 e.toNat
    if n % d = 0 then
      let v : Int := n / d
      some (if s then -v else v)
    else none
  | _ => none

/-- A zero of either sign. -/
def isZero : Binary64 → Bool
  | .finite _ m _ => m = 0
  | _ => false

/-- Equality of values: zeros of both signs are equal, and no number equals `nan`. -/
def sameValue : Binary64 → Binary64 → Bool
  | .nan, _ => false
  | _, .nan => false
  | x, y => x == y || (x.isZero && y.isZero)

end Binary64

end Handout
