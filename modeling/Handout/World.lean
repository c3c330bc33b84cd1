import Handout.Script

/-!
# The world of a script

A store with a working directory, an environment, and what has been printed. `World.answer` says what
each call gives and does, and `Script.run` carries a whole script out.

Calls on chosen paths can be made to fail: a `World.Fault` names the call, the path as the script
asks for it, and the error. A path is too long when its text is; links to nowhere and links in a ring
lead to neither directory nor file.

`run_bind` says that a script which is carried out in two parts is carried out.
-/

namespace Handout

/-- The calls that can be made to fail. -/
inductive FileCall
  | list
  | stat
  | read
  | write
  | delete
  deriving DecidableEq, Repr

/-- A call that fails. -/
structure World.Fault where
  call : FileCall
  path : Path
  error : OsError
  deriving DecidableEq, Repr

/-- A line of the error output. -/
inductive Notice
  | text (s : String)
  | event (r : Record)
  deriving Repr

/-- What a script acts on. -/
structure World where
  store : Store
  directory : Location
  environment : Environment
  faults : List World.Fault
  /-- The time at which every record is written. -/
  time : String
  /-- Whether records have been sent to the error output since it is the one in place. -/
  attached : Bool
  /-- Where the file is that records are sent to. -/
  log : Option Location
  /-- What was printed, last first. -/
  output : List String
  /-- What was printed to the error output, last first. -/
  notices : List Notice

namespace World

/-- The working directory as a path. -/
def here (w : World) : Path :=
  ⟨.root, w.directory⟩

/-- The error that a call on a path is made to give. -/
def fault? (w : World) (c : FileCall) (p : Path) : Option OsError :=
  (w.faults.find? fun f => f.call = c ∧ f.path = w.here.join p).map (·.error)

/-- The most bytes that the text of a path may have, less one. -/
def mostPathBytes : Nat := 4096

/-- The location that a path leads to. -/
def find (w : World) (follow : Bool) (p : Path) : Except OsError Location :=
  if mostPathBytes ≤ p.text.utf8ByteSize then .error .nameTooLong
  else w.store.resolve follow (if p.isAbsolute then [] else w.directory) p.parts

/-- What a path leads to. -/
def entry (w : World) (p : Path) : Except OsError (Location × Entry) := do
  let l ← w.find true p
  match w.store.get? l with
  | some e => return (l, e)
  | none => throw .absent

/-- Errors that mean only that a path leads to nothing. -/
def meansNothing : OsError → Bool
  | .absent | .notDirectory | .tooManyLinks => true
  | _ => false

/-- Whether what a path leads to is as asked. -/
def holds (w : World) (p : Path) (q : Entry → Bool) : Except OsError Bool :=
  match w.entry p with
  | .ok (_, e) => .ok (q e)
  | .error e => if meansNothing e then .ok false else .error e

/-- A call that does what it does unless it is made to fail. -/
def unless? {α : Type} (w : World) (c : FileCall) (p : Path) (x : Except OsError α) :
    Except OsError α :=
  match w.fault? c p with
  | some e => .error e
  | none => x

/-- The names in the directory that a path leads to. -/
def list (w : World) (p : Path) : Except OsError (List String) := do
  match ← w.entry p with
  | (l, .dir) => return w.store.names l
  | _ => throw .notDirectory

/-- The bytes of the file that a path leads to. -/
def read (w : World) (p : Path) : Except OsError (List UInt8) := do
  match ← w.entry p with
  | (_, .file content) => return content
  | (_, .dir) => throw .isDirectory
  | (_, .link _) => throw .tooManyLinks

/-- The location of the file that a path leads to, which may not exist yet. -/
def target (w : World) (p : Path) : Except OsError Location := do
  let l ← w.find true p
  if w.store.get? l = some .dir then throw .isDirectory else return l

/-- The location of the entry that a path names, which is no directory. -/
def doomed (w : World) (p : Path) : Except OsError Location := do
  let l ← w.find false p
  match w.store.get? l with
  | none => throw .absent
  | some .dir => throw .isDirectory
  | some _ => return l

/-- The location of a directory that a path names, which does not exist yet. -/
def vacant (w : World) (p : Path) : Except OsError Location := do
  let l ← w.find false p
  if (w.store.get? l).isSome then throw .present else return l

/-- A world whose store has an entry at a location. -/
def put (w : World) (l : Location) (e : Entry) : World :=
  { w with store := w.store.put l e }

/-- A world without the entry at a location. A log file that is deleted takes no more records. -/
def erase (w : World) (l : Location) : World :=
  { w with store := w.store.erase l, log := w.log.filter (· ≠ l) }

/-- A change at a location, where there is one. -/
def change (w : World) (l : Except OsError Location) (f : Location → World) :
    Except OsError Unit × World :=
  match l with
  | .ok l => (.ok (), f l)
  | .error e => (.error e, w)

/-- The content of the file at a location. -/
def content (w : World) (l : Location) : List UInt8 :=
  match w.store.get? l with
  | some (.file c) => c
  | _ => []

/-- A world whose records are sent to a file too. What is in it stays. -/
def attachFile (w : World) (l : Location) : World :=
  { w.put l (.file (w.content l)) with attached := true, log := some l }

/-- A world with a record written. -/
def record (w : World) (r : Record) : World :=
  let w := if w.attached then { w with notices := .event r :: w.notices } else w
  match w.log with
  | none => w
  | some l => w.put l (.file (w.content l ++ (r.line w.time ++ "\n").toUTF8.toList))

/-- **What a call gives and does.** -/
def answer (w : World) : (c : Call) → c.Answer × World
  | .environment => (w.environment, w)
  | .directory => (w.here, w)
  | .list p => (w.unless? .list p (w.list p), w)
  | .isDirectory p => (w.unless? .stat p (w.holds p (· == .dir)), w)
  | .isFile p => ((w.holds p fun | .file _ => true | _ => false).toOption.getD false, w)
  | .present p => (w.holds p fun _ => true, w)
  | .read p => (w.unless? .read p (w.read p), w)
  | .write p c => w.change (w.unless? .write p (w.target p)) fun l => w.put l (.file c)
  | .delete p => w.change (w.unless? .delete p (w.doomed p)) w.erase
  | .makeDirectory p => w.change (w.vacant p) fun l => w.put l .dir
  | .attach none => (.ok (), { w with attached := true, log := none })
  | .attach (some p) => w.change (w.target p) w.attachFile
  | .record r => ((), w.record r)
  | .print s => ((), { w with output := s :: w.output })
  | .complain s => ((), { w with notices := .text s :: w.notices })

end World

/-- **A script, carried out in a world.** -/
def Script.run {α : Type} : Script α → World → α × World
  | .done a, w => (a, w)
  | .ask c next, w => (next (w.answer c).1).run (w.answer c).2

/-- Two scripts one after the other act one after the other. -/
theorem Script.run_bind {α β : Type} (x : Script α) (f : α → Script β) (w : World) :
    (x >>= f).run w = (f (x.run w).1).run (x.run w).2 := by
  change (x.bind f).run w = _
  induction x generalizing w with
  | done a => rfl
  | ask c next ih => simp only [Script.bind, Script.run, ih]

end Handout
