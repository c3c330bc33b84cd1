import Handout.Data.Calendar
import Handout.Number.Shortest
import Handout.Text.Quoted

/-!
# Dynamic data

The values that a configuration file, the environment or an event may hold. A mapping is a list of
entries in the order in which their keys were first put; `Mapping.get?` and `Mapping.put` find a key
by `Data.sameKey`, under which numbers and truth values are equal when their values are.

`Data.literal` writes a value out in full, with texts quoted; `Data.text` writes a text bare.
-/

namespace Handout

/-- A dynamic value. -/
inductive Data
  | null
  | bool (b : Bool)
  | int (n : Int)
  | float (x : Binary64)
  | text (s : String)
  | bytes (b : List UInt8)
  | date (d : Date)
  | moment (m : Moment)
  | list (items : List Data)
  | tuple (items : List Data)
  | set (items : List Data)
  | map (entries : List (Data × Data))
  deriving BEq, Repr

/-- Entries in the order in which their keys were first put. -/
abbrev Mapping := List (Data × Data)

namespace Data

/-- The word for the kind of a value, as messages name it. -/
def kindWord : Data → String
  | .null => "NoneType"
  | .bool _ => "bool"
  | .int _ => "int"
  | .float _ => "float"
  | .text _ => "str"
  | .bytes _ => "bytes"
  | .date _ => "datetime.date"
  | .moment _ => "datetime.datetime"
  | .list _ => "list"
  | .tuple _ => "tuple"
  | .set _ => "set"
  | .map _ => "dict"

/-- The integer that a value stands for, where it is one. -/
def integer? : Data → Option Int
  | .bool b => some (if b then 1 else 0)
  | .int n => some n
  | .float x => x.toInt?
  | _ => none

/-- Equality of keys. Numbers and truth values are equal by value, other values only to their own
kind; lists and mappings are never keys. -/
def sameKey : Data → Data → Bool
  | .null, .null => true
  | .text s, .text t => s == t
  | .bytes s, .bytes t => s == t
  | .date d, .date e => d == e
  | .moment a, .moment b => a.same b
  | .float x, .float y => x.sameValue y
  | a, b =>
    match a.integer?, b.integer? with
    | some m, some n => m == n
    | _, _ => false

/-- A value that counts as absent where a document is asked for its content: nothing, no, zero and
whatever is empty. -/
def isEmpty : Data → Bool
  | .null => true
  | .bool b => !b
  | .int n => n == 0
  | .float x => x.isZero
  | .text s => s.isEmpty
  | .bytes b => b.isEmpty
  | .date _ => false
  | .moment _ => false
  | .list xs => xs.isEmpty
  | .tuple xs => xs.isEmpty
  | .set xs => xs.isEmpty
  | .map es => es.isEmpty

/-- The text of a text value. -/
def text? : Data → Option String
  | .text s => some s
  | _ => none

end Data

namespace Mapping

/-- The value at a key. -/
def get? (m : Mapping) (k : Data) : Option Data :=
  (m.find? fun e => e.1.sameKey k).map Prod.snd

/-- The value at a text key. -/
def field? (m : Mapping) (name : String) : Option Data :=
  m.get? (.text name)

/-- A mapping with a value at a key. A key that is there keeps its place. -/
def put (m : Mapping) (k v : Data) : Mapping :=
  match m with
  | [] => [(k, v)]
  | (k', v') :: r => if k'.sameKey k then (k', v) :: r else (k', v') :: put r k v

/-- The mapping of entries put one after the other. -/
def ofEntries (entries : List (Data × Data)) : Mapping :=
  entries.foldl (fun m e => put m e.1 e.2) []

end Mapping

/-! ## Writing a value out -/

/-- A date as a literal. -/
def Date.literal (d : Date) : String :=
  "datetime.date(" ++ toString d.year ++ ", " ++ toString d.month ++ ", " ++ toString d.day ++ ")"

/-- A span of minutes below one day, as a literal; a negative one counts back from a day. -/
def Moment.spanLiteral (minutes : Int) : String :=
  let seconds := (minutes * 60) % 86400
  let days := (minutes * 60) / 86400
  let parts := (if days = 0 then [] else ["days=" ++ toString days]) ++
    (if seconds = 0 then [] else ["seconds=" ++ toString seconds])
  "datetime.timedelta(" ++ (if parts.isEmpty then "0" else ", ".intercalate parts) ++ ")"

/-- A moment as a literal. Seconds are left out where they and the microseconds are zero. -/
def Moment.literal (m : Moment) : String :=
  let head := [m.date.year, m.date.month, m.date.day, m.hour, m.minute]
  let tail := if m.microsecond ≠ 0 then [m.second, m.microsecond]
    else if m.second ≠ 0 then [m.second] else []
  let zone := match m.offset with
    | none => []
    | some o =>
      ["tzinfo=" ++ (if o = 0 then "datetime.timezone.utc"
        else "datetime.timezone(" ++ Moment.spanLiteral o ++ ")")]
  "datetime.datetime(" ++ ", ".intercalate ((head ++ tail).map (fun n : Nat => toString n) ++ zone) ++ ")"

namespace Data

mutual

/-- **A value written out**, with texts quoted. The members of a set are written latest first. -/
def literal : Data → String
  | .null => "None"
  | .bool b => if b then "True" else "False"
  | .int n => toString n
  | .float x => NumberLayout.standard.write x
  | .text s => Quoted.encode s
  | .bytes b => Quoted.encodeBytes b
  | .date d => d.literal
  | .moment m => m.literal
  | .list xs => "[" ++ ", ".intercalate (literals xs) ++ "]"
  | .tuple xs =>
    match literals xs with
    | [x] => "(" ++ x ++ ",)"
    | ls => "(" ++ ", ".intercalate ls ++ ")"
  | .set xs =>
    match literals xs with
    | [] => "set()"
    | ls => "\x7b" ++ ", ".intercalate ls.reverse ++ "\x7d"
  | .map es => "\x7b" ++ ", ".intercalate (entryLiterals es) ++ "\x7d"
  termination_by structural d => d

/-- The values of a list written out. -/
def literals : List Data → List String
  | [] => []
  | x :: xs => x.literal :: literals xs
  termination_by structural xs => xs

/-- The entries of a mapping written out. -/
def entryLiterals : List (Data × Data) → List String
  | [] => []
  | (k, v) :: r => (k.literal ++ ": " ++ v.literal) :: entryLiterals r
  termination_by structural es => es

end

/-- A value as plain text: a text bare, dates and moments in figures, any other value as written
out. -/
def plain : Data → String
  | .text s => s
  | .date d => d.text
  | .moment m => m.text
  | d => d.literal

end Data

end Handout
