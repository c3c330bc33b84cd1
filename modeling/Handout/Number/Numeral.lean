import Handout.Text.Blank
import Handout.Text.Digit
import Handout.Number.Binary64

/-!
# Numerals

The grammar of written numbers. Blanks may stand around a numeral, one sign before it, and a single
underscore between two digits; the digits may be those of any script. An integer has at most
`Numeral.longest` digits and no exponent; a fraction has a digit before or after its point and may
have an exponent.

The information separators are blanks of Unicode, but they may not stand around a numeral.
-/

namespace Handout.Numeral

/-- The most digits of an integer numeral. -/
def longest : Nat := 4300

/-- A character that may stand around a numeral. -/
def isPad (c : Char) : Bool :=
  Blank.holds c && !(0x1c ≤ c.toNat && c.toNat ≤ 0x1f)

/-- A text without the blanks around it. -/
def trim (text : List Char) : List Char :=
  ((text.dropWhile isPad).reverse.dropWhile isPad).reverse

/-- Whether a minus sign leads, and the text after the sign. -/
def sign : List Char → Bool × List Char
  | '-' :: r => (true, r)
  | '+' :: r => (false, r)
  | r => (false, r)

/-- The digits that go on a run, each possibly after one underscore, and the rest. -/
def moreDigits : List Char → List Nat × List Char
  | [] => ([], [])
  | '_' :: c :: r =>
    match Digit.value? c with
    | some d => let (ds, t) := moreDigits r; (d :: ds, t)
    | none => ([], '_' :: c :: r)
  | c :: r =>
    match Digit.value? c with
    | some d => let (ds, t) := moreDigits r; (d :: ds, t)
    | none => ([], c :: r)

/-- A run of digits at the start of a text, and the rest. -/
def digits : List Char → List Nat × List Char
  | [] => ([], [])
  | c :: r =>
    match Digit.value? c with
    | some d => let (ds, t) := moreDigits r; (d :: ds, t)
    | none => ([], c :: r)

/-- The number that decimal digits write. -/
def value (ds : List Nat) : Nat :=
  ds.foldl (fun n d => 10 * n + d) 0

/-- A number with the sign of a numeral. -/
def signed (negative : Bool) (n : Nat) : Int :=
  if negative then -(n : Int) else n

/-- Why a text is no integer numeral. -/
inductive IntegerFault
  | malformed
  | tooLong (digits : Nat)
  deriving DecidableEq, Repr

/-- An integer numeral, read. -/
def integer (text : List Char) : Except IntegerFault Int :=
  let (negative, r) := sign (trim text)
  match digits r with
  | ([], _) => .error .malformed
  | (ds, []) => if ds.length ≤ longest then .ok (signed negative (value ds)) else .error (.tooLong ds.length)
  | (_, _ :: _) => .error .malformed

/-- The exponent of a numeral, which ends it. -/
def exponent? : List Char → Option Int
  | [] => some 0
  | c :: r =>
    if c = 'e' ∨ c = 'E' then
      let (negative, t) := sign r
      match digits t with
      | ([], _) => none
      | (ds, []) => some (signed negative (value ds))
      | (_, _ :: _) => none
    else none

/-- A numeral without its sign. -/
def unsigned? (negative : Bool) (r : List Char) : Option Binary64 :=
  let (whole, t) := digits r
  let (part, t) := match t with
    | '.' :: u => digits u
    | u => ([], u)
  if whole.isEmpty && part.isEmpty then none
  else (exponent? t).map fun e =>
    .ofDecimal negative (value (whole ++ part)) (e - part.length)

/-- The words for infinity and for no number, in any case of ASCII letters. -/
def word? (negative : Bool) (r : List Char) : Option Binary64 :=
  let w := String.ofList (r.map Char.toLower)
  if w = "inf" ∨ w = "infinity" then some (.infinite negative)
  else if w = "nan" then some .nan
  else none

/-- A numeral of a fraction, read. -/
def fraction? (text : List Char) : Option Binary64 :=
  let (negative, r) := sign (trim text)
  (unsigned? negative r).orElse fun _ => word? negative r

/-! ## Other bases -/

/-- The value of a digit in a base of at most thirty-six. -/
def baseDigit? (base : Nat) (c : Char) : Option Nat :=
  let v := match Digit.value? c with
    | some d => some d
    | none =>
      let l := c.toLower
      if 'a' ≤ l ∧ l ≤ 'z' then some (l.toNat - 87) else none
  v.filter (· < base)

/-- The letter that may follow a zero before the digits of a base. -/
def baseLetter? : Nat → Option Char
  | 2 => some 'b'
  | 8 => some 'o'
  | 16 => some 'x'
  | _ => none

/-- A text without the zero and letter that name its base. -/
def dropBase (base : Nat) : List Char → List Char
  | '0' :: c :: r => if baseLetter? base = some c.toLower then r else '0' :: c :: r
  | r => r

/-- An integer numeral of a base, without underscores, read. -/
def inBase? (base : Nat) (text : List Char) : Option Int :=
  let (negative, r) := sign (trim text)
  let r := dropBase base r
  if r.isEmpty then none
  else (r.mapM (baseDigit? base)).map fun ds =>
    signed negative (ds.foldl (fun n d => base * n + d) 0)

end Handout.Numeral
