import Handout.Config.Sources

/-!
# Logging

Setting logging up, and writing events. What is not asked for comes from the settings, which are
loaded first in any case. Records go to the error output, and to the end of a file where one is named;
directories on the way to it are made.

A logger keeps the style in force when its first event after a set-up comes, even if that event is
dropped. The threshold and the file of the latest set-up count for all. Events before any set-up are
dropped.

`Log.within` binds fields for the length of an act. It unbinds their names afterwards and does not
bring back values that the names had before.
-/

namespace Handout

namespace Log

/-! ## Set-up -/

/-- A refusal to make a directory is no matter where there is one. -/
def acceptDirectory (p : Path) (e : OsError) : Act Unit := do
  match ← Act.call (.isDirectory p) with
  | .ok true => return ()
  | .ok false => throw (.system e p.text)
  | .error e => throw (.system e p.text)

/-- A directory, with as many of the directories above it as are missing and asked for. -/
def makeDirectories : Nat → Path → Act Unit
  | above, p => do
    match ← Act.call (.makeDirectory p) with
    | .ok () => return ()
    | .error .absent =>
      match above with
      | 0 => throw (.system .absent p.text)
      | n + 1 =>
        makeDirectories n p.parent
        match ← Act.call (.makeDirectory p) with
        | .ok () => return ()
        | .error e => acceptDirectory p e
    | .error e => acceptDirectory p e

/-- Send records to the error output and to a file, if any. -/
def attach (file : Option Path) : Act Unit := do
  match ← Act.call (.attach file) with
  | .ok () => return ()
  | .error e => throw (.system e ((file.map Path.text).getD ""))

/-- Send records to a file too, after making its directory. -/
def attachFile (p : Path) : Act Unit := do
  makeDirectories p.parts.length p.parent
  attach (some ((← Act.call .directory).join p).collapse)

/-- Send records to where a file name says; an empty name is none. -/
def attachNamed (name : Option String) : Act Unit :=
  match name with
  | none => attach none
  | some f => if f = "" then attach none else attachFile (Path.ofText f)

/-- **Set logging up.** A level that is refused is met after the file is open. -/
def configure (level file : Option String) (structured : Option Bool) : Act Unit := do
  let general := (← Config.settings).general
  attachNamed (file.or general.logFile)
  match Threshold.ofName (level.getD general.logLevel) with
  | .error f => throw (.level f)
  | .ok threshold =>
    let style := if structured.getD general.jsonLogs then LogStyle.structured else .console
    modify fun s => { s with logging := ⟨some style, threshold, s.logging.fixed⟩ }

/-- Set logging up unless it is. -/
def ensure (level : Option String) : Act Unit := do
  if (← get).logging.style.isNone then configure level none none

/-! ## Events -/

/-- The style that a logger has now. -/
def styleOf? (l : Logging) (logger : String) : Option LogStyle :=
  (l.fixed.lookup logger).or l.style

/-- Logging once a logger has been used with a style. -/
def fix (l : Logging) (logger : String) (style : LogStyle) : Logging :=
  if (l.fixed.lookup logger).isSome then l else { l with fixed := (logger, style) :: l.fixed }

/-- **An event**, with the fields that every event carries. Its own fields win over those. -/
def event (logger : String) (severity : Severity) (name : String) (fields : Fields) : Act Unit := do
  let s ← get
  match styleOf? s.logging logger with
  | none => return ()
  | some style =>
    set { s with logging := fix s.logging logger style }
    if s.logging.threshold ≤ severity.number then
      Act.call (.record ⟨style, severity, logger, name, Fields.merge s.context fields⟩)

/-! ## Fields of every event -/

/-- Have every event carry some fields. -/
def bindFields (fields : Fields) : Act Unit :=
  modify fun s => { s with context := Fields.merge s.context fields }

/-- Have no event carry fields of some names. -/
def unbindFields (names : List String) : Act Unit :=
  modify fun s => { s with context := Fields.erase s.context names }

/-- **An act whose events carry some fields.** -/
def within {α : Type} (fields : Fields) (x : Act α) : Act α := do
  bindFields fields
  let r ← x.outcome
  unbindFields (fields.map Prod.fst)
  Act.ofExcept r

end Log

end Handout
