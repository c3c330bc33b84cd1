import Std.Time.Format
import Handout.CommandLine

/-!
# The program

The command on the files of a machine. Each call of its script is one call of the system; nothing is
decided here. The error of a call is told by its number where it has one.
-/

open Handout

namespace Handout.Machine

/-- The file that records are sent to, where one is open. -/
abbrev LogFile := IO.Ref (Option IO.FS.Handle)

/-- The number of an error of the system. -/
def errorNumber? : IO.Error → Option UInt32
  | .alreadyExists _ n _ | .otherError n _ | .resourceBusy n _ | .hardwareFault n _
  | .noFileOrDirectory _ n _ | .invalidArgument _ n _ | .permissionDenied _ n _
  | .resourceExhausted _ n _ | .inappropriateType _ n _ => some n
  | _ => none

/-- The number of an error, which some calls give with a minus sign. -/
def plainNumber (n : UInt32) : Nat :=
  if n < 0x80000000 then n.toNat else (0 - n).toNat

/-- An error of the system as the program knows it. -/
def osError (e : IO.Error) : OsError :=
  ((errorNumber? e).bind fun n => OsError.ofNumber? (plainNumber n)).getD (.other (toString e))

/-- A call of the system whose error is a result. -/
def attempt {α : Type} (x : IO α) : IO (Except OsError α) := do
  match ← x.toBaseIO with
  | .ok a => return .ok a
  | .error e => return .error (osError e)

/-- The variables of the environment, from the list that the system keeps of them. -/
def environment : IO Environment := do
  match ← (IO.FS.readFile "/proc/self/environ").toBaseIO with
  | .error _ => return []
  | .ok text =>
    return Environment.ofList ((text.splitOn "\x00").filterMap fun entry =>
      match entry.splitOn "=" with
      | name :: value :: more => some (name, "=".intercalate (value :: more))
      | _ => none)

/-- Whether a path leads to something of a type. -/
def leadsTo (p : Path) (type : IO.FS.FileType → Bool) : IO (Except OsError Bool) := do
  let whole := (← IO.currentDir) / p.text
  match ← attempt whole.metadata with
  | .ok m => return .ok (type m.type)
  | .error e => return if World.meansNothing e then .ok false else .error e

/-- The time of an event. -/
def now : IO String := do
  let t := Std.Time.DateTime.ofTimestampWithZone (← Std.Time.Timestamp.now) Std.Time.TimeZone.UTC
  let date : Date := ⟨t.year.toInt.toNat, t.month.val.toNat, t.day.val.toNat⟩
  let moment : Moment := ⟨date, t.hour.val.toNat, t.minute.val.toNat, t.second.val.toNat,
    t.nanosecond.val.toNat / 1000, some 0⟩
  return moment.universalText

/-- Write a record to where records are sent. -/
def record (log : LogFile) (r : Record) : IO Unit := do
  let line := r.line (← now)
  IO.eprintln line
  match ← log.get with
  | none => return ()
  | some h =>
    h.putStrLn line
    h.flush

/-- Send records to the error output and to a file, if any. -/
def attach (log : LogFile) : Option Path → IO (Except OsError Unit)
  | none => do return .ok (← log.set none)
  | some p => attempt do log.set (some (← IO.FS.Handle.mk p.text .append))

/-- What a call gives and does on this machine. -/
def answer (log : LogFile) : (c : Call) → IO c.Answer
  | .environment => environment
  | .directory => return Path.ofText (← IO.currentDir).toString
  | .list p => attempt do
    let whole := (← IO.currentDir) / p.text
    return (← whole.readDir).toList.map (·.fileName)
  | .isDirectory p => leadsTo p (· == .dir)
  | .isFile p => return (← leadsTo p (· == .file)).toOption.getD false
  | .present p => leadsTo p fun _ => true
  | .read p => attempt do return (← IO.FS.readBinFile p.text).toList
  | .write p content => attempt (IO.FS.writeBinFile p.text ⟨content.toArray⟩)
  | .delete p => attempt (IO.FS.removeFile p.text)
  | .makeDirectory p => attempt (IO.FS.createDir p.text)
  | .attach file => attach log file
  | .record r => record log r
  | .print text => do
    let out ← IO.getStdout
    out.putStr text
    out.flush
  | .complain text => IO.eprint text

/-- A script, carried out on this machine. -/
def carryOut {α : Type} (log : LogFile) : Script α → IO α
  | .done a => return a
  | .ask c next => do carryOut log (next (← answer log c))

end Handout.Machine

/-- The command. A stop that is not the command's to handle is shown as it is. -/
def main (args : List String) : IO UInt32 := do
  let log ← IO.mkRef none
  let (ending, _) ← Machine.carryOut log ((CommandLine.respond args).run.run .start)
  match ending with
  | .ok e => return e.status.number.toUInt32
  | .error stop =>
    IO.eprintln stop.message
    return ExitStatus.usage.number.toUInt32
