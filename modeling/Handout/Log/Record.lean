import Handout.Data.Json
import Handout.Log.Fields
import Handout.Log.Level

/-!
# Records of events

An event as it is written, on one line. In the structured style the line is a JSON object of all the
fields. In the console style the time, the severity, the name and the logger stand in columns, and
the other fields follow in the order of their names. The four columns win over fields of their names.
-/

namespace Handout

/-- How the lines of a log look. -/
inductive LogStyle
  | structured
  | console
  deriving DecidableEq, Repr

/-- An event, ready to be written. -/
structure Record where
  style : LogStyle
  severity : Severity
  logger : String
  name : String
  fields : Fields
  deriving Repr

namespace Record

/-- The name that a logger is shown by; the nameless one is the root. -/
def loggerName (r : Record) : String :=
  if r.logger = "" then "root" else r.logger

/-- All the fields of a record that is written at a time. -/
def allFields (r : Record) (time : String) : Fields :=
  Fields.merge r.fields [("event", .text r.name), ("logger", .text r.loggerName),
    ("timestamp", .text time), ("level", .text r.severity.word)]

/-- A text filled up with spaces to a width. -/
def pad (width : Nat) (s : String) : String :=
  s ++ String.ofList (List.replicate (width - s.length) ' ')

/-- Characters that make a text be quoted in the console style. -/
def asksQuotes (c : Char) : Bool :=
  [' ', '\t', '=', '\r', '\n', '"', '\''].contains c

/-- A value in the console style. -/
def consoleValue : Data → String
  | .text s => if s.toList.any asksQuotes then Quoted.encode s else s
  | d => d.literal

/-- The fields with a column of their own. -/
def columns : List String := ["event", "logger", "timestamp", "level", "logger_name"]

/-- The columns of the console style. -/
def heading (r : Record) (time : String) : List String :=
  [time, "[" ++ pad 9 r.severity.word ++ "]", pad 30 r.name, "[" ++ r.loggerName ++ "]"] ++
    (match Fields.get? r.fields "logger_name" with
      | some d => ["[" ++ d.plain ++ "]"]
      | none => [])

/-- The other fields in the console style. -/
def trailing (r : Record) : List String :=
  let rest := Fields.erase (Fields.merge [] r.fields) columns
  (rest.mergeSort fun a b => a.1 ≤ b.1).map fun x => x.1 ++ "=" ++ consoleValue x.2

/-- **The line of a record** that is written at a time. -/
def line (r : Record) (time : String) : String :=
  match r.style with
  | .structured => Json.encode (.map ((r.allFields time).map fun x => (.text x.1, x.2)))
  | .console => " ".intercalate (r.heading time ++ r.trailing)

end Record

end Handout
