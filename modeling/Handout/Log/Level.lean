import Handout.Text.Case

/-!
# Levels

How grave an event is, and the threshold below which events are dropped. A threshold is asked for by
a name in any case of letters; a name that is not known asks for the threshold of warnings. Two names
belong to formats and are refused.
-/

namespace Handout

/-- How grave an event is. -/
inductive Severity
  | debug
  | info
  | warning
  | error
  | critical
  deriving DecidableEq, Repr

/-- The number that a severity counts as. -/
def Severity.number : Severity → Nat
  | .debug => 10
  | .info => 20
  | .warning => 30
  | .error => 40
  | .critical => 50

/-- The word for a severity. -/
def Severity.word : Severity → String
  | .debug => "DEBUG"
  | .info => "INFO"
  | .warning => "WARNING"
  | .error => "ERROR"
  | .critical => "CRITICAL"

/-- The least number of the events that are written. -/
abbrev Threshold := Nat

/-- A name that stands for a format, where a level is asked for. -/
inductive LevelFault
  | format
  | formatTable
  deriving DecidableEq, Repr

/-- The message of a fault. -/
def LevelFault.message : LevelFault → String
  | .format => "Unknown level: '%(levelname)s:%(name)s:%(message)s'"
  | .formatTable =>
    "Level not an integer or a valid string: \x7b'%': (<class 'logging.PercentStyle'>, " ++
      "'%(levelname)s:%(name)s:%(message)s'), '\x7b': (<class 'logging.StrFormatStyle'>, " ++
      "'\x7blevelname\x7d:\x7bname\x7d:\x7bmessage\x7d'), '$': (<class 'logging.StringTemplateStyle'>, " ++
      "'$\x7blevelname\x7d:$\x7bname\x7d:$\x7bmessage\x7d')\x7d"

namespace Threshold

/-- The thresholds that have a name. -/
def named : List (String × Threshold) := [
  ("NOTSET", 0), ("DEBUG", 10), ("INFO", 20), ("WARN", 30), ("WARNING", 30), ("ERROR", 40),
  ("CRITICAL", 50), ("FATAL", 50)]

/-- The threshold of warnings. -/
def standard : Threshold := Severity.number .warning

/-- **The threshold that a name asks for.** -/
def ofName (name : String) : Except LevelFault Threshold :=
  let word := String.ofList (UpperCase.fold name.toList)
  if word = "BASIC_FORMAT" then .error .format
  else if word = "_STYLES" then .error .formatTable
  else .ok ((named.lookup word).getD standard)

end Threshold

end Handout
