import Handout.Number.Binary64

/-!
# The shortest decimal of a number

The decimals that read back as a finite number are those in an interval around it: half way to each
neighbour, the ends included when the mantissa is even. `Shortest.decimal` looks for one with one
digit, then two, and so on: on each grid only the two neighbours of the value can be in the
interval, and the nearer one is taken.

`NumberLayout` is how the digits are written out, a decision of the format and not of the number.
-/

namespace Handout.Shortest

/-- The value and its interval in quarters of a unit in the last place. -/
def quarters (m : Nat) (e : Int) : Nat × Nat × Nat :=
  let low := if m = Nat.pow 2 52 ∧ e ≠ Binary64.leastExponent then 4 * m - 1 else 4 * m - 2
  (low, 4 * m, 4 * m + 2)

/-- How many digits stand before the point of a positive ratio; not positive for one below 1/10. -/
def pointPlace (n d : Nat) : Int :=
  (Nat.toDigits 10 (n * Nat.pow 10 330 / d)).length - 330

/-- The decimal of a number of digits that is in the interval and nearest to the value. The ratios
are numerators over one denominator; the decimal is an integer times a power of ten. -/
def onGrid? (low v high d : Nat) (closed : Bool) (place : Int) (k : Nat) : Option (Nat × Int) :=
  let g := place - k
  let up := Nat.pow 10 (-g).toNat
  let gd := d * Nat.pow 10 g.toNat
  let t := v * up / gd
  let inside := fun x =>
    if closed then low * up ≤ x * gd && x * gd ≤ high * up
    else low * up < x * gd && x * gd < high * up
  match inside t, inside (t + 1) with
  | true, true => some (if v * up - t * gd ≤ (t + 1) * gd - v * up then t else t + 1, g)
  | true, false => some (t, g)
  | false, true => some (t + 1, g)
  | false, false => none

/-- **The shortest decimal** of the positive number `m · 2 ^ e`: an integer and a power of ten. -/
def decimal (m : Nat) (e : Int) : Nat × Int :=
  let (low, v, high) := quarters m e
  let up := Nat.pow 2 (e - 2).toNat
  let d := Nat.pow 2 (2 - e).toNat
  let place := pointPlace (v * up) d
  ((List.range' 1 17).findSome? fun k =>
    onGrid? (low * up) (v * up) (high * up) d (m % 2 = 0) place k).getD (m, 0)

/-- An integer without the zeros at its end, and the power of ten that makes up for them. The first
number bounds how many may go. -/
def dropZeros : Nat → Nat → Int → Nat × Int
  | 0, n, e => (n, e)
  | k + 1, n, e => if n % 10 = 0 ∧ n ≠ 0 then dropZeros k (n / 10) (e + 1) else (n, e)

end Handout.Shortest

namespace Handout

/-- How the digits of a number are written out. -/
structure NumberLayout where
  /-- The least power of ten of the first digit that is written with a point. -/
  leastPlain : Int
  /-- The least power of ten of the first digit that is written with an exponent again. -/
  firstLarge : Int
  /-- Whether a whole number keeps a point and a zero. -/
  keepPoint : Bool
  /-- The least number of digits of an exponent. -/
  exponentDigits : Nat
  /-- The texts of infinity and of no number. -/
  infinity : String
  notANumber : String

namespace NumberLayout

/-- The layout of numbers in settings, events and messages: with a point from one ten-thousandth
to below ten million milliards, and the exponent in two digits at least. -/
def standard : NumberLayout := ⟨-4, 16, true, 2, "inf", "nan"⟩

/-- Digits as a text, padded with zeros in front. -/
def padded (width n : Nat) : List Char :=
  let ds := Nat.toDigits 10 n
  List.replicate (width - ds.length) '0' ++ ds

/-- The digits `ds` with a point after the first `place` of them. -/
def plain (l : NumberLayout) (ds : List Char) (place : Int) : List Char :=
  let n := ds.length
  if place ≤ 0 then '0' :: '.' :: List.replicate (-place).toNat '0' ++ ds
  else if (n : Int) ≤ place then
    ds ++ List.replicate (place.toNat - n) '0' ++ (if l.keepPoint then ['.', '0'] else [])
  else ds.take place.toNat ++ '.' :: ds.drop place.toNat

/-- The digits `ds` with a point after the first of them, and an exponent. -/
def scientific (l : NumberLayout) (ds : List Char) (e : Int) : List Char :=
  let mantissa := match ds with
    | [] => []
    | [d] => [d]
    | d :: r => d :: '.' :: r
  mantissa ++ 'e' :: (if e < 0 then '-' else '+') :: padded l.exponentDigits e.natAbs

/-- **A number written out.** -/
def write (l : NumberLayout) : Binary64 → String
  | .nan => l.notANumber
  | .infinite s => (if s then "-" else "") ++ l.infinity
  | .finite s m e =>
    let body :=
      if m = 0 then l.plain ['0'] 1
      else
        let (n, g) := Shortest.decimal m e
        let (n, g) := Shortest.dropZeros 20 n g
        let ds := Nat.toDigits 10 n
        let place : Int := g + ds.length
        if l.leastPlain < place ∧ place ≤ l.firstLarge then l.plain ds place
        else l.scientific ds (place - 1)
    String.ofList (if s then '-' :: body else body)

end NumberLayout

end Handout
