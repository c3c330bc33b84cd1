import Handout.Config.Settings
import Handout.Encoding
import Handout.ErrorReport
import Handout.World
import Handout.Yaml.Fault

/-!
# Sessions and acts

A session is what the program keeps in mind from one run to the next: the settings once they are
loaded, how events are logged, and the fields that every event carries. An act is a script that reads
and changes the session and may stop; a session that an act has changed stays changed when it stops.

A `Stop` is a cause. Only a `Failure`, which is a call on a path that went wrong, is an error that the
program reports; the others are faults of the configuration, of the log or of the encoding asked for.
-/

namespace Handout

/-- What could not be done with a path. -/
inductive Operation
  | list
  | stat
  | read
  | decode
  | write
  | delete
  deriving DecidableEq, Repr

/-- The word for an operation. -/
def Operation.word : Operation → String
  | .list => "list"
  | .stat => "stat"
  | .read => "read"
  | .decode => "decode"
  | .write => "write"
  | .delete => "delete"

/-- A call on a path that went wrong. -/
structure Failure where
  path : Path
  operation : Operation
  reason : String
  deriving DecidableEq, Repr

/-- A failure, reported. -/
def Failure.toReport (f : Failure) : ErrorReport :=
  .file f.path.text f.operation.word (some f.reason)

/-- Why an act stops. -/
inductive Stop
  | failure (f : Failure)
  | settings (f : SettingsFault)
  | misuse (m : Misuse)
  | document (f : Yaml.Fault)
  /-- A configuration file whose bytes are no text. -/
  | undecodable (f : DecodeFault)
  /-- A name that no encoding has. -/
  | unknownEncoding (name : String)
  /-- What a codec refuses to read or to write without a fault at any place, such as a text without
  the mark that its encoding needs. -/
  | unmarked {reason : String}
  /-- A text that its encoding has no bytes for, with what the fault says. -/
  | unencodable {message : String}
  | level (f : LevelFault)
  /-- A call outside of a run that the system refused. -/
  | system (e : OsError) (path : String)
  deriving Repr

/-- The message of a stop. -/
def Stop.message : Stop → String
  | .failure f => f.toReport.message
  | .settings f => f.message
  | .misuse m => m.message
  | .document f => f.message
  | .undecodable f => f.message
  | .unknownEncoding name => Codec.unknown name
  | @unmarked reason => reason
  | @unencodable message => message
  | .level f => f.message
  | .system e path =>
    match e.number? with
    | some n => "[Errno " ++ toString n ++ "] " ++ e.reason ++ ": " ++ Quoted.encode path
    | none => e.reason

/-- How events are logged. -/
structure Logging where
  /-- The style of loggers that have not been used yet; none before logging is set up. -/
  style : Option LogStyle
  threshold : Threshold
  /-- The styles of the loggers that have been used. -/
  fixed : List (String × LogStyle)
  deriving Repr

/-- Logging before it is set up. -/
def Logging.start : Logging := ⟨none, Threshold.standard, []⟩

/-- What the program keeps in mind. -/
structure Session where
  settings : Option Settings
  logging : Logging
  /-- The fields that every event carries. -/
  context : Fields
  deriving Repr

/-- The session of a program that has just started. -/
def Session.start : Session := ⟨none, .start, []⟩

/-- A script that reads and changes the session and may stop. -/
abbrev Act (α : Type) := ExceptT Stop (StateT Session Script) α

namespace Act

/-- The act of a single call. -/
def call (c : Call) : Act c.Answer :=
  fun s => (Script.call c).bind fun x => .done (.ok x, s)

/-- The act of a result that may be a cause to stop. -/
def ofExcept {α : Type} : Except Stop α → Act α
  | .ok a => pure a
  | .error e => throw e

/-- An act that gives the cause of a stop as its result. -/
def outcome {α : Type} (x : Act α) : Act (Except Stop α) :=
  fun s => (x s).bind fun r => .done (.ok r.1, r.2)

/-- An act, carried out in a session and a world: its result, the session and the world after it. -/
def exec {α : Type} (x : Act α) (s : Session) (w : World) : Except Stop α × Session × World :=
  let r := (x.run.run s).run w
  (r.1.1, r.1.2, r.2)

theorem exec_pure {α : Type} (a : α) (s : Session) (w : World) :
    (pure a : Act α).exec s w = (.ok a, s, w) := rfl

theorem exec_call (c : Call) (s : Session) (w : World) :
    (call c).exec s w = (.ok (w.answer c).1, s, (w.answer c).2) := rfl

theorem exec_get (s : Session) (w : World) : (get : Act Session).exec s w = (.ok s, s, w) := rfl

theorem exec_set (t s : Session) (w : World) : (set t : Act Unit).exec s w = (.ok (), t, w) := rfl

/-- An act goes on where the one before it ended, unless that one stopped. -/
theorem exec_bind {α β : Type} (x : Act α) (f : α → Act β) (s : Session) (w : World) :
    (x >>= f).exec s w =
      match x.exec s w with
      | (.ok a, s, w) => (f a).exec s w
      | (.error e, s, w) => (.error e, s, w) := by
  simp only [exec, ExceptT.run_bind, StateT.run_bind, Script.run_bind]
  rcases (x.run.run s).run w with ⟨⟨r, t⟩, v⟩
  cases r <;> rfl

/-- An act that gives its outcome does not stop. -/
theorem exec_outcome {α : Type} (x : Act α) (s : Session) (w : World) :
    x.outcome.exec s w = (.ok (x.exec s w).1, (x.exec s w).2) := by
  have h := Script.run_bind (x s)
    (fun r => (Script.done (Except.ok r.1, r.2) : Script (Except Stop (Except Stop α) × Session))) w
  simp only [exec, outcome, ExceptT.run, StateT.run]
  exact congrArg (fun r => (r.1.1, r.1.2, r.2)) h

end Act

end Handout
