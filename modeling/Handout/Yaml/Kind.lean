import Handout.Yaml.Fault

/-!
# Kinds of nodes

Every node has a kind: the one that its tag names, or the one that the text of a plain scalar has
the form of. Switches have words, integers may be binary, octal, decimal, hexadecimal or counted in
sixties, fractions need a point, and a date with or without a time is a moment. A text of no such
form is a text.
-/

namespace Handout.Yaml

/-- What a node stands for. -/
inductive Kind
  | null
  | switch
  | integer
  | fraction
  | text
  | bytes
  | moment
  | list
  | map
  | set
  /-- A list of pairs, each a mapping of one entry. -/
  | pairs
  /-- A key whose value is merged into the mapping. -/
  | merge
  /-- A key whose value stands for the mapping. -/
  | value
  | unknown
  deriving DecidableEq, Repr

namespace Kind

/-- What the tags of the known kinds begin with. -/
def tagStart : String := "tag:yaml.org,2002:"

/-- The known kinds, by the end of their tags. -/
def byTag : List (String × Kind) := [
  ("null", .null), ("bool", .switch), ("int", .integer), ("float", .fraction), ("str", .text),
  ("binary", .bytes), ("timestamp", .moment), ("seq", .list), ("map", .map), ("set", .set),
  ("omap", .pairs), ("pairs", .pairs), ("merge", .merge), ("value", .value)]

/-- The kind that a tag names. -/
def ofTag (tag : List Char) : Kind :=
  if tagStart.toList.isPrefixOf tag then
    (byTag.lookup (String.ofList (tag.drop tagStart.length))).getD .unknown
  else .unknown

/-- Whether values of a kind are made of other values, so that they are no keys. -/
def isCompound : Kind → Bool
  | .list | .map | .set | .pairs => true
  | _ => false

end Kind

/-! ## Forms of plain scalars -/

namespace Plain

/-- The words for nothing. -/
def nullWords : List String := ["", "~", "null", "Null", "NULL"]

/-- The words for a switch. -/
def switchWords : List String := [
  "yes", "Yes", "YES", "no", "No", "NO", "true", "True", "TRUE", "false", "False", "FALSE",
  "on", "On", "ON", "off", "Off", "OFF"]

/-- The words for infinity, which may have a sign, without their point. -/
def infinityWords : List String := ["inf", "Inf", "INF"]

/-- The words for no number, with their point. -/
def nanWords : List String := [".nan", ".NaN", ".NAN"]

/-- A text without one sign before it. -/
def dropSign : List Char → List Char
  | '-' :: r => r
  | '+' :: r => r
  | r => r

/-- A digit, or the underscore that sets digits apart. -/
def isSpacedDigit (c : Char) : Bool :=
  c.isDigit || c == '_'

/-- A number below sixty, in one digit or two. -/
def isSixtieth : List Char → Bool
  | [a] => a.isDigit
  | [a, b] => '0' ≤ a && a ≤ '5' && b.isDigit
  | _ => false

/-- Numbers below sixty, a colon before each. -/
def areSixtieths (text : List Char) : Bool :=
  match text.splitOn ':' with
  | [] :: g :: gs => (g :: gs).all isSixtieth
  | _ => false

/-- An integer. -/
def isInteger (text : List Char) : Bool :=
  match dropSign text with
  | [] => false
  | ['0'] => true
  | '0' :: 'b' :: r => !r.isEmpty && r.all fun c => c == '0' || c == '1' || c == '_'
  | '0' :: 'x' :: r => !r.isEmpty && r.all fun c => (Hex.value? c).isSome || c == '_'
  | '0' :: r => r.all fun c => ('0' ≤ c && c ≤ '7') || c == '_'
  | c :: r =>
    let rest := r.dropWhile isSpacedDigit
    c.isDigit && (rest.isEmpty || areSixtieths rest)

/-- An exponent, which has a sign, or nothing. -/
def isExponent : List Char → Bool
  | [] => true
  | e :: s :: d :: r =>
    (e == 'e' || e == 'E') && (s == '-' || s == '+') && (d :: r).all Char.isDigit
  | _ => false

/-- Whether a text begins with a digit. -/
def leadsWithDigit : List Char → Bool
  | [] => false
  | c :: _ => c.isDigit

/-- A fraction with a point and digits before it. -/
def isPointed (text : List Char) : Bool :=
  leadsWithDigit text &&
    match text.dropWhile isSpacedDigit with
    | '.' :: r => isExponent (r.dropWhile isSpacedDigit)
    | _ => false

/-- A fraction that begins with its point. -/
def isBare : List Char → Bool
  | '.' :: r => leadsWithDigit r && isExponent (r.dropWhile isSpacedDigit)
  | _ => false

/-- A fraction counted in sixties. -/
def isSixtyFraction (text : List Char) : Bool :=
  leadsWithDigit text &&
    match text.dropWhile (· ≠ '.') with
    | '.' :: r =>
      r.all isSpacedDigit &&
        areSixtieths ((text.takeWhile (· ≠ '.')).dropWhile isSpacedDigit)
    | _ => false

/-- A fraction, infinity, or no number. -/
def isFraction (text : List Char) : Bool :=
  let bare := dropSign text
  isPointed bare || isBare text || isSixtyFraction bare ||
    infinityWords.any (fun w => bare == '.' :: w.toList) ||
    nanWords.any (fun w => text == w.toList)

end Plain

/-! ## Dates and times as they are written -/

/-- The numbers of a date, and of a time where one follows. -/
structure Stamp where
  year : Nat
  month : Nat
  day : Nat
  time : Option (Nat × Nat × Nat × List Nat × Option Int)
  deriving Repr

namespace Stamp

/-- The value of a digit. -/
def digit? (c : Char) : Option Nat :=
  if c.isDigit then some (c.toNat - 48) else none

/-- A number of exactly two digits. -/
def two? : List Char → Option (Nat × List Char)
  | a :: b :: r => do return (10 * (← digit? a) + (← digit? b), r)
  | _ => none

/-- A number of two digits, or of one. -/
def short? : List Char → Option (Nat × List Char)
  | [] => none
  | a :: r => (two? (a :: r)).orElse fun _ => (digit? a).map fun d => (d, r)

/-- A character that has to come next. -/
def expect? (c : Char) : List Char → Option (List Char)
  | [] => none
  | x :: r => if x = c then some r else none

/-- A space or a tab. -/
def isBlank (c : Char) : Bool := c == ' ' || c == '\t'

/-- What stands between the date and the time. -/
def separator? : List Char → Option (List Char)
  | [] => none
  | c :: r =>
    if c = 'T' ∨ c = 't' then some r
    else if isBlank c then some (r.dropWhile isBlank)
    else none

/-- The offset from universal time that ends a text, in minutes, or its absence. -/
def zone? (text : List Char) : Option (Option Int) :=
  if text.isEmpty then some none
  else
    match text.dropWhile isBlank with
    | ['Z'] => some (some 0)
    | s :: r =>
      if s = '-' ∨ s = '+' then do
        let (hours, r) ← short? r
        let minutes ← if r.isEmpty then some 0 else do
          let (m, r) ← two? (← expect? ':' r)
          if r.isEmpty then some m else none
        let span : Int := 60 * hours + minutes
        return some (if s = '-' then -span else span)
      else none
    | [] => none

/-- The time that ends a text. -/
def time? (text : List Char) : Option (Nat × Nat × Nat × List Nat × Option Int) := do
  let (hour, r) ← short? (← separator? text)
  let (minute, r) ← two? (← expect? ':' r)
  let (second, r) ← two? (← expect? ':' r)
  let (part, r) := match r with
    | '.' :: r => (r.takeWhile Char.isDigit, r.dropWhile Char.isDigit)
    | r => ([], r)
  return (hour, minute, second, part.filterMap digit?, ← zone? r)

/-- **The numbers of a date** and of the time after it. -/
def ofText? (text : List Char) : Option Stamp := do
  let (high, r) ← two? text
  let (low, r) ← two? r
  let (month, r) ← short? (← expect? '-' r)
  let (day, r) ← short? (← expect? '-' r)
  let time ← if r.isEmpty then some none else (time? r).map some
  return ⟨100 * high + low, month, day, time⟩

/-- Whether a plain scalar is a date or a moment: a date alone has two digits for month and day. -/
def isPlain (text : List Char) : Bool :=
  match ofText? text with
  | some s => s.time.isSome || text.length == 10
  | none => false

end Stamp

/-- A text without one line feed at its end. -/
def dropLineFeed (text : List Char) : List Char :=
  if text.getLast? = some '\n' then text.dropLast else text

/-- **The kind of a plain scalar.** A line feed at the end does not change the form. -/
def Kind.ofPlain (text : List Char) : Kind :=
  let form := dropLineFeed text
  let word := String.ofList form
  if text = [] then .null
  else if form = [] then .text
  else if word ∈ Plain.switchWords then .switch
  else if Plain.isFraction form then .fraction
  else if Plain.isInteger form then .integer
  else if word = "<<" then .merge
  else if word ∈ Plain.nullWords then .null
  else if Stamp.isPlain form then .moment
  else if word = "=" then .value
  else .text

end Handout.Yaml
