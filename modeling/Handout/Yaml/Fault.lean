import Handout.Data
import Handout.Number.Numeral

/-!
# Faults of configuration documents

Two kinds of fault. The document is malformed: its characters, tokens, structure, links between
nodes or tags make no value. Or the document is well formed, and a scalar has a type that its text
is no value of.
-/

namespace Handout.Yaml

/-- Why a text gives no value. -/
inductive Fault
  /-- The text is no document, or a tag or an alias in it is not known. -/
  | malformed
  /-- An escape names a code point beyond the last one. -/
  | beyondCharacters (code : Nat)
  | calendar (f : CalendarFault)
  | integer (base : Nat) (text : List Char)
  | longInteger (digits : Nat)
  | fraction (text : List Char)
  | switch (word : List Char)
  | moment
  /-- A number of no characters. -/
  | emptyNumber
  deriving DecidableEq, Repr

/-- How much of a text that is no integer its message shows, quotes and escapes counted. -/
def quotedAtMost : Nat := 200

/-- The message of a fault. -/
def Fault.message : Fault → String
  | .malformed => "malformed document"
  | .beyondCharacters code =>
    if code < 0x80000000 then "chr() arg not in range(0x110000)"
    else "Python int too large to convert to C int"
  | .calendar (.year y) => "year " ++ toString y ++ " is out of range"
  | .calendar .month => "month must be in 1..12"
  | .calendar .day => "day is out of range for month"
  | .calendar .hour => "hour must be in 0..23"
  | .calendar .minute => "minute must be in 0..59"
  | .calendar .second => "second must be in 0..59"
  | .calendar (.offset minutes) =>
    "offset must be a timedelta strictly between -timedelta(hours=24) and timedelta(hours=24), not "
      ++ Moment.spanLiteral minutes ++ "."
  | .integer base text =>
    "invalid literal for int() with base " ++ toString base ++ ": " ++
      String.ofList ((Quoted.encode (String.ofList text)).toList.take quotedAtMost)
  | .longInteger n =>
    "Exceeds the limit (" ++ toString Numeral.longest ++
      " digits) for integer string conversion: value has " ++ toString n ++
      " digits; use sys.set_int_max_str_digits() to increase the limit"
  | .fraction text => "could not convert string to float: " ++ Quoted.encode (String.ofList text)
  | .switch word => Quoted.encode (String.ofList word)
  | .moment => "'NoneType' object has no attribute 'groupdict'"
  | .emptyNumber => "string index out of range"

end Handout.Yaml
