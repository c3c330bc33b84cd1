import Handout.Proofs.Phases

/-!
# The calls of an act

`Act.exec` says where an act ends, and `Act.calls` what it asks of the system on the way, in that order.
All that is printed is what the calls print (`output_exec`), so the calls tell what was printed before
something was done and what after it.

An act **asks** for calls of some kind only when each of its parts does (`Asks.bind`). Setting logging
up asks for calls that neither print nor touch what a file holds (`asks_configure`), and a run for calls
that do not print (`asks_run`). That holds whatever the answers are, and so at any level and in any
style of logging.
-/

namespace Handout

namespace Call

/-- The text that a call prints, if it prints. -/
def printed? : Call → Option String
  | .print text => some text
  | _ => none

/-- A call that prints nothing. -/
def Quiet (c : Call) : Prop :=
  c.printed? = none

/-- A call that may put other bytes into a file, or take an entry away. -/
def alters : Call → Bool
  | .write _ _ | .delete _ | .record _ => true
  | _ => false

/-- **A call that prepares**: it prints nothing, and no file that is there holds other bytes for it. -/
structure Prepares (c : Call) : Prop where
  quiet : c.Quiet
  keeps : c.alters = false

theorem Looks.prepares {c : Call} (h : c.Looks) : c.Prepares := by
  cases c with
  | write | delete | makeDirectory | attach | record | print | complain => exact h.elim
  | _ => exact ⟨rfl, rfl⟩

theorem Attaches.prepares {c : Call} (h : c.Attaches) : c.Prepares := by
  cases c with
  | makeDirectory | isDirectory | directory | attach => exact ⟨rfl, rfl⟩
  | _ => exact h.elim

end Call

namespace Script

variable {α β : Type}

/-- **The calls of a script** in a world, from the first to the last. -/
def calls : Script α → World → List Call
  | .done _, _ => []
  | .ask c next, w => c :: (next (w.answer c).1).calls (w.answer c).2

theorem calls_bind (x : Script α) (f : α → Script β) (w : World) :
    (x >>= f).calls w = x.calls w ++ (f (x.run w).1).calls (x.run w).2 := by
  change (x.bind f).calls w = _
  induction x generalizing w with
  | done a => rfl
  | ask c next ih => rw [bind, calls, calls, run, ih, List.cons_append]

/-- A script that only looks runs alike in a world that gives the same answers. -/
theorem run_congr {x : Script α} {w v : World}
    (h : ∀ c ∈ x.calls w, c.Looks ∧ (v.answer c).1 = (w.answer c).1) :
    x.run v = ((x.run w).1, v) := by
  induction x with
  | done a => rfl
  | ask c next ih =>
    rw [calls] at h
    obtain ⟨⟨hlooks, hsame⟩, hrest⟩ := List.forall_mem_cons.mp h
    rw [World.answer_of_looks hlooks] at hrest
    rw [run, run, World.answer_of_looks hlooks, World.answer_of_looks hlooks, hsame]
    exact ih _ hrest

end Script

namespace World

theorem output_change (w : World) (l : Except OsError Location) {f : Location → World}
    (hf : ∀ l, (f l).output = w.output) : (w.change l f).2.output = w.output := by
  cases l with
  | error e => rfl
  | ok l => exact hf l

theorem output_record (w : World) (r : Record) : (w.record r).output = w.output := by
  obtain ⟨n, ⟨hr, -⟩ | ⟨l, hr, -⟩⟩ := record_eq w r <;> rw [hr]

/-- What a call prints is printed, and nothing else. -/
theorem output_answer (w : World) (c : Call) :
    (w.answer c).2.output = c.printed?.toList ++ w.output := by
  cases c with
  | write p b => exact w.output_change _ fun _ => rfl
  | delete p => exact w.output_change _ fun _ => rfl
  | makeDirectory p => exact w.output_change _ fun _ => rfl
  | attach file =>
    cases file with
    | none => rfl
    | some p => exact w.output_change _ fun _ => rfl
  | record r => exact w.output_record r
  | _ => rfl

end World

/-- **What a script prints** is what its calls print. -/
theorem Script.output_run {α : Type} (x : Script α) (w : World) :
    (x.run w).2.output = ((x.calls w).filterMap Call.printed?).reverse ++ w.output := by
  induction x generalizing w with
  | done a => rfl
  | ask c next ih =>
    rw [run, calls, ih, World.output_answer, List.filterMap_cons]
    cases c.printed? with
    | none => rfl
    | some text => rw [List.reverse_cons, List.append_assoc]; rfl

namespace Act

variable {α β : Type} {C D : Call → Prop} {x : Act α} {f : α → Act β}

/-- **The calls of an act** in a session and a world. -/
def calls (x : Act α) (s : Session) (w : World) : List Call :=
  (x.run.run s).calls w

/-- An act asks on where the one before it ended, unless that one stopped. -/
theorem calls_bind (x : Act α) (f : α → Act β) (s : Session) (w : World) :
    (x >>= f).calls s w = x.calls s w ++
      match x.exec s w with
      | (.ok a, t, v) => (f a).calls t v
      | (.error _, _, _) => [] := by
  simp only [calls, exec, ExceptT.run_bind, StateT.run_bind, Script.calls_bind]
  rcases (x.run.run s).run w with ⟨⟨r, t⟩, v⟩
  cases r <;> rfl

theorem calls_outcome (x : Act α) (s : Session) (w : World) :
    x.outcome.calls s w = x.calls s w := by
  have h := Script.calls_bind (x s)
    (fun r => (Script.done (Except.ok r.1, r.2) : Script (Except Stop (Except Stop α) × Session))) w
  exact h.trans (List.append_nil _)

/-- **What an act prints** is what its calls print. -/
theorem output_exec (x : Act α) (s : Session) (w : World) :
    (x.exec s w).2.2.output = ((x.calls s w).filterMap Call.printed?).reverse ++ w.output :=
  Script.output_run (x.run.run s) w

/-- **What an act comes to is told by the answers to its calls**: in a world that gives the same ones
to an act that only looks, it comes to the same. -/
theorem exec_congr {x : Act α} {s : Session} {w v : World}
    (h : ∀ c ∈ x.calls s w, c.Looks ∧ (v.answer c).1 = (w.answer c).1) :
    x.exec s v = ((x.exec s w).1, (x.exec s w).2.1, v) := by
  have hrun := Script.run_congr h
  simp only [exec, hrun]

/-! ## Acts that ask for calls of some kind -/

/-- **An act asks** for calls of some kind only. -/
def Asks (C : Call → Prop) (x : Act α) : Prop :=
  ∀ s w, ∀ c ∈ x.calls s w, C c

theorem asks_pure (a : α) : Asks C (pure a) :=
  fun _ _ _ h => nomatch h

theorem asks_throw (e : Stop) : Asks C (throw e : Act α) :=
  fun _ _ _ h => nomatch h

theorem asks_get : Asks C get :=
  fun _ _ _ h => nomatch h

theorem asks_set (s : Session) : Asks C (set s : Act PUnit) :=
  fun _ _ _ h => nomatch h

theorem asks_modify (g : Session → Session) : Asks C (modify g) :=
  fun _ _ _ h => nomatch h

theorem asks_call {c : Call} (hc : C c) : Asks C (call c) :=
  fun _ _ _ h => List.mem_singleton.mp h ▸ hc

theorem asks_ofExcept (r : Except Stop α) : Asks C (ofExcept r) := by
  cases r with
  | error e => exact asks_throw e
  | ok a => exact asks_pure a

theorem Asks.bind (hx : Asks C x) (hf : ∀ a, Asks C (f a)) : Asks C (x >>= f) := by
  intro s w c hc
  rw [calls_bind, List.mem_append] at hc
  rcases hc with hc | hc
  · exact hx s w c hc
  · rcases hr : x.exec s w with ⟨e | a, t, v⟩
    · rw [hr] at hc
      cases hc
    · rw [hr] at hc
      exact hf a t v c hc

theorem Asks.mono (hx : Asks C x) (h : ∀ c, C c → D c) : Asks D x :=
  fun s w c hc => h c (hx s w c hc)

/-- An act that only calls asks for its calls. -/
theorem Calling.asks {E : Stop → Prop} (h : Calling C E x) : Asks C x := by
  induction h with
  | pure a => exact asks_pure a
  | throw he => exact asks_throw _
  | call hc => exact asks_call hc
  | bind _ _ ihx ihf => exact .bind ihx ihf

/-- An act that only looks prepares. -/
theorem Calling.prepares {E : Stop → Prop} (h : Calling Call.Looks E x) : Asks Call.Prepares x :=
  h.asks.mono fun _ hc => hc.prepares

theorem Asks.outcome (hx : Asks C x) : Asks C x.outcome := by
  intro s w c hc
  rw [calls_outcome] at hc
  exact hx s w c hc

/-- An act that prepares prints nothing. -/
theorem Asks.quiet (hx : Asks Call.Prepares x) : Asks Call.Quiet x :=
  fun s w c hc => (hx s w c hc).quiet

/-- An act that asks for no call that prints prints nothing. -/
theorem Asks.filterMap_printed? (hx : Asks Call.Quiet x) (s : Session) (w : World) :
    (x.calls s w).filterMap Call.printed? = [] :=
  List.filterMap_eq_nil_iff.mpr (hx s w)

end Act

open Act

/-! ## The settings -/

namespace Config

/-- Loading the settings asks for the environment and for files. -/
theorem loads_settings : Asks Call.Loads settings := by
  refine .bind asks_get fun s => ?_
  split
  · exact asks_pure _
  · refine .bind calling_configuration.asks fun config => .bind (asks_ofExcept _) fun st => ?_
    exact .bind (asks_modify _) fun _ => asks_pure _

/-- Loading the settings only looks. -/
theorem asks_settings : Asks Call.Prepares settings :=
  loads_settings.mono fun _ hc => hc.looks.prepares

end Config

/-! ## Logging -/

namespace Log

/-- **Setting logging up** prints nothing, and no file that is there holds other bytes for it. -/
theorem asks_configure (level file : Option String) (structured : Option Bool) :
    Asks Call.Prepares (configure level file structured) := by
  have hattach : ∀ name, Asks Call.Prepares (attachNamed name) := fun name =>
    (calling_attachNamed name).asks.mono fun _ hc => hc.prepares
  refine .bind Config.asks_settings fun st => .bind (hattach _) fun _ => ?_
  split
  · exact asks_throw _
  · exact asks_modify _

theorem asks_ensure (level : Option String) : Asks Call.Prepares (ensure level) := by
  refine .bind asks_get fun s => ?_
  split
  · exact asks_configure level none none
  · exact asks_pure _

theorem asks_event (logger : String) (severity : Severity) (name : String) (fields : Fields) :
    Asks Call.Quiet (event logger severity name fields) := by
  refine .bind asks_get fun s => ?_
  split
  · exact asks_pure _
  · refine .bind (asks_set _) fun _ => ?_
    split
    · exact asks_call rfl
    · exact asks_pure _

theorem asks_within {α : Type} {C : Call → Prop} {x : Act α} (hx : Asks C x) (fields : Fields) :
    Asks C (within fields x) := by
  refine .bind (asks_modify _) fun _ => .bind hx.outcome fun r => ?_
  exact .bind (asks_modify _) fun _ => asks_ofExcept r

end Log

/-! ## Runs -/

/-- A discovery prints nothing. -/
theorem asks_discover (root : Path) (extensions ignored : Option (List String)) :
    Asks Call.Quiet (discover root extensions ignored) := by
  refine .bind Config.asks_settings.quiet fun st => ?_
  refine .bind (Discovery.calling_walk _ _ _).prepares.quiet fun found => ?_
  exact .bind (Log.asks_event _ _ _ _) fun _ => asks_pure _

namespace Processing

theorem calling_readText [Codecs] (p : Path) (encoding : String) :
    Calling Call.Looks (fun _ => True) (readText p encoding) := by
  rw [readText]
  split
  · -- nothing is called for a broken name
    have hthrow : Calling Call.Looks (fun _ => True)
        (throw (.unknownEncoding encoding) : Act (Codec × List Char)) := .throw trivial
    exact hthrow
  · refine .bind (.call trivial) fun r => ?_
    cases r with
    | error e => exact .throw trivial
    | ok bytes =>
      simp only
      split
      · exact .throw trivial
      · split
        · exact .pure _
        · exact .throw trivial
        · exact .throw trivial

theorem calling_deleteFile (p : Path) :
    Calling (· = .delete p) (fun _ => True) (deleteFile p) := by
  refine .bind (.call rfl) fun r => ?_
  cases r with
  | ok _ => exact .pure _
  | error e => exact .throw trivial

theorem calling_writeText (p : Path) (codec : Codec) (text : List Char) :
    Calling (∃ bytes, · = .write p bytes) (fun _ => True) (writeText p codec text) := by
  refine .bind (.call ⟨_, rfl⟩) fun r => ?_
  cases r with
  | error e => exact .throw trivial
  | ok _ =>
    simp only
    split
    · exact .pure _
    · exact .throw trivial

theorem asks_deleteFile (p : Path) : Asks Call.Quiet (deleteFile p) :=
  (calling_deleteFile p).asks.mono fun _ hc => by rw [hc]; rfl

theorem asks_writeText (p : Path) (codec : Codec) (text : List Char) :
    Asks Call.Quiet (writeText p codec text) :=
  (calling_writeText p codec text).asks.mono fun _ ⟨_, hc⟩ => by rw [hc]; rfl

end Processing

/-- Processing a file prints nothing. -/
theorem asks_processFile [Codecs] (p : Path) (v : Variant) (encoding : Option String) (dryRun : Bool) :
    Asks Call.Quiet (processFile p v encoding dryRun) := by
  refine .bind ?_ fun name => .bind (Processing.calling_readText p name).prepares.quiet fun a => ?_
  · cases encoding with
    | some name => exact asks_pure _
    | none => exact .bind Config.asks_settings.quiet fun _ => asks_pure _
  · have hrecord : ∀ name fields {r : FileResult}, Asks Call.Quiet
        (Log.event Processing.logger .debug name fields >>= fun _ => (pure r : Act FileResult)) :=
      fun name fields _ => .bind (Log.asks_event _ _ name fields) fun _ => asks_pure _
    obtain ⟨codec, text⟩ := a
    simp only
    cases dryRun with
    | true =>
      cases Plan.of v text with
      | delete => exact hrecord _ _
      | rewrite new => exact hrecord _ _
    | false =>
      cases Plan.of v text with
      | delete => exact .bind (Processing.asks_deleteFile p) fun _ => hrecord _ _
      | rewrite new => exact .bind (Processing.asks_writeText p codec new) fun _ => hrecord _ _

namespace Run

theorem asks_processAll [Codecs] (v : Variant) (encoding : String) (dryRun : Bool) (paths : List Path) :
    Asks Call.Quiet (processAll v encoding dryRun paths) := by
  induction paths with
  | nil => exact asks_pure _
  | cons p ps ih =>
    exact .bind (asks_processFile p v _ dryRun) fun r => .bind ih fun rs => asks_pure _

end Run

/-- **A run prints nothing**, whatever it meets. -/
theorem asks_run [Codecs] (root : Path) (v : Variant) (settings : Option Settings) (dryRun : Bool) :
    Asks Call.Quiet (run root v settings dryRun) := by
  have hbody : ∀ st, Asks Call.Quiet (Run.body root v st dryRun) := fun st => by
    refine .bind (asks_discover root _ _) fun paths => ?_
    refine .bind (Run.asks_processAll v _ dryRun paths) fun results => ?_
    exact .bind (Log.asks_event _ _ _ _) fun _ => asks_pure _
  refine .bind (Log.asks_ensure none).quiet fun _ => ?_
  cases settings with
  | some st => exact .bind (asks_pure st) fun st => Log.asks_within (hbody st) _
  | none => exact .bind Config.asks_settings.quiet fun st => Log.asks_within (hbody st) _

end Handout
