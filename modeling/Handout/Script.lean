import Handout.Config.Environment
import Handout.Log.Record
import Handout.Path
import Handout.Store

/-!
# Scripts

What the program does to the system is data. A `Call` names one thing that it asks of the system and
`Call.Answer` the shape of what comes back; a `Script` is a tree of calls that goes on with each
answer. The same script is carried out on a store by `Script.run` and on the files of a machine by
the command.
-/

namespace Handout

/-- One thing that is asked of the system. -/
inductive Call
  /-- The variables of the environment. -/
  | environment
  /-- The working directory. -/
  | directory
  /-- The names in a directory. -/
  | list (p : Path)
  /-- Whether a path leads to a directory. -/
  | isDirectory (p : Path)
  /-- Whether a path leads to a file. -/
  | isFile (p : Path)
  /-- Whether a path leads to anything. -/
  | present (p : Path)
  /-- The bytes of a file. -/
  | read (p : Path)
  /-- Put bytes into a file in place of what it holds. -/
  | write (p : Path) (content : List UInt8)
  /-- Take an entry out of its directory. -/
  | delete (p : Path)
  /-- Make a directory. -/
  | makeDirectory (p : Path)
  /-- Send records to the error output and, where one is named, to the end of a file, and no longer
  to where they went before. -/
  | attach (file : Option Path)
  /-- Write a record to where records are sent. -/
  | record (r : Record)
  /-- Print text. -/
  | print (text : String)
  /-- Print text to the error output. -/
  | complain (text : String)
  deriving Repr

/-- What comes back for a call. -/
abbrev Call.Answer : Call → Type
  | .environment => Environment
  | .directory => Path
  | .list _ => Except OsError (List String)
  | .isDirectory _ => Except OsError Bool
  | .isFile _ => Bool
  | .present _ => Except OsError Bool
  | .read _ => Except OsError (List UInt8)
  | .write _ _ => Except OsError Unit
  | .delete _ => Except OsError Unit
  | .makeDirectory _ => Except OsError Unit
  | .attach _ => Except OsError Unit
  | .record _ => Unit
  | .print _ => Unit
  | .complain _ => Unit

/-- A tree of calls with results at its ends. -/
inductive Script (α : Type)
  | done (a : α)
  | ask (c : Call) (next : c.Answer → Script α)

namespace Script

/-- One script, then the one that its result picks. -/
def bind {α β : Type} : Script α → (α → Script β) → Script β
  | .done a, f => f a
  | .ask c next, f => .ask c fun x => (next x).bind f

instance : Monad Script where
  pure := .done
  bind := Script.bind

/-- The script of a single call. -/
def call (c : Call) : Script c.Answer :=
  .ask c .done

theorem bind_done {α : Type} (x : Script α) : x.bind .done = x := by
  induction x with
  | done a => rfl
  | ask c next ih => simp only [bind, ih]

theorem bind_assoc {α β γ : Type} (x : Script α) (f : α → Script β) (g : β → Script γ) :
    (x.bind f).bind g = x.bind fun a => (f a).bind g := by
  induction x with
  | done a => rfl
  | ask c next ih => simp only [bind, ih]

instance : LawfulMonad Script :=
  LawfulMonad.mk' Script (fun x => bind_done x) (fun _ _ => rfl) (fun x f g => bind_assoc x f g)

end Script

end Handout
