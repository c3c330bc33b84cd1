import Handout.Encoding.Base64
import Handout.Text.Case
import Handout.Yaml.Kind

/-!
# Scalars as values

What the text of a scalar stands for, given its kind. Underscores in numbers say nothing. A number
with colons counts in sixties, each part on its own. A tag may claim a kind that the text has not
the form of; then the text is no value of the kind, and the fault says why.
-/

namespace Handout.Yaml

namespace Typed

/-- A number without its underscores and its sign, and whether the sign is a minus. -/
def unsigned (text : List Char) : Except Fault (Bool × List Char) :=
  match text with
  | [] => .error .emptyNumber
  | c :: r =>
    if c = '-' then .ok (true, r) else if c = '+' then .ok (false, r) else .ok (false, c :: r)

/-- An integer in decimal digits. -/
def decimal (text : List Char) : Except Fault Int :=
  match Numeral.integer text with
  | .ok n => .ok n
  | .error .malformed => .error (.integer 10 text)
  | .error (.tooLong n) => .error (.longInteger n)

/-- An integer in the digits of another base. -/
def based (base : Nat) (text : List Char) : Except Fault Int :=
  match Numeral.inBase? base text with
  | some n => .ok n
  | none => .error (.integer base text)

/-- The number of parts that count in sixties, most significant first. -/
def ofSixtieths (parts : List Int) : Int :=
  parts.foldl (fun n d => 60 * n + d) 0

/-- An integer without its sign. -/
def magnitude (text : List Char) : Except Fault Int :=
  match text with
  | [] => .error .emptyNumber
  | ['0'] => .ok 0
  | '0' :: 'b' :: r => based 2 r
  | '0' :: 'x' :: r => based 16 r
  | '0' :: r => based 8 ('0' :: r)
  | r => if r.contains ':' then do return ofSixtieths (← (r.splitOn ':').mapM decimal) else decimal r

/-- An integer. -/
def integer (text : List Char) : Except Fault Int := do
  let (negative, r) ← unsigned (text.filter (· ≠ '_'))
  let n ← magnitude r
  return if negative then -n else n

/-- A fraction in decimal digits. -/
def plainFraction (text : List Char) : Except Fault Binary64 :=
  match Numeral.fraction? text with
  | some x => .ok x
  | none => .error (.fraction text)

/-- The sum of parts, each with the weight that its place has, least significant first. -/
def sumSixtieths : Nat → Binary64 → List Binary64 → Binary64
  | _, sum, [] => sum
  | weight, sum, d :: ds => sumSixtieths (60 * weight) (sum.add (d.scale weight)) ds

/-- A fraction. -/
def fraction (text : List Char) : Except Fault Binary64 := do
  let (negative, r) ← unsigned (LowerCase.fold (text.filter (· ≠ '_')))
  let signed := fun (x : Binary64) => if negative then x.neg else x
  if r = ".inf".toList then return signed (.infinite false)
  else if r = ".nan".toList then return .nan
  else if r.contains ':' then
    let parts ← (r.splitOn ':').mapM plainFraction
    return signed (sumSixtieths 1 (.zero false) parts.reverse)
  else return signed (← plainFraction r)

/-- The words for a switch and what they stand for. -/
def switches : List (String × Bool) :=
  [("yes", true), ("no", false), ("true", true), ("false", false), ("on", true), ("off", false)]

/-- A switch, in any case of letters. -/
def switch (text : List Char) : Except Fault Bool :=
  let low := LowerCase.fold text
  match switches.lookup (String.ofList low) with
  | some b => .ok b
  | none => .error (.switch low)

/-- The microseconds that the digits after a point write. -/
def microseconds (digits : List Nat) : Nat :=
  Numeral.value ((digits ++ List.replicate 6 0).take 6)

/-- A date or a moment. -/
def moment (text : List Char) : Except Fault Data :=
  match Stamp.ofText? (dropLineFeed text) with
  | none => .error .moment
  | some s =>
    match s.time with
    | none => ((Date.make s.year s.month s.day).map Data.date).mapError .calendar
    | some (hour, minute, second, part, zone) =>
      ((Moment.make s.year s.month s.day hour minute second (microseconds part) zone).map
        Data.moment).mapError .calendar

end Typed

/-- **The value of a scalar of a kind.** A scalar is no list or mapping, and no value of an unknown
kind. -/
def Kind.read (k : Kind) (text : List Char) : Except Fault Data :=
  match k with
  | .null => .ok .null
  | .switch => (Typed.switch text).map .bool
  | .integer => (Typed.integer text).map .int
  | .fraction => (Typed.fraction text).map .float
  | .text => .ok (.text (String.ofList text))
  | .bytes =>
    match Base64.decode? text with
    | some b => .ok (.bytes b)
    | none => .error .malformed
  | .moment => Typed.moment text
  | _ => .error .malformed

end Handout.Yaml
