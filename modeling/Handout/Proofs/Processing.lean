import Handout.Run
import Mathlib.Data.List.Flatten
import Mathlib.Data.List.Forall2
import Handout.Proofs.Encodings
import Handout.Proofs.Logs
import Handout.Proofs.Scan

/-!
# What processing comes to

`Processing.attempt` is the processing of one file without its events: from a world to a result and
the world with the plan carried out, or to a stop and the world that it leaves. `exec_processFile` says
that an act that processes a file is that and then records; when it stops, nothing is recorded. A stop
for a failure leaves the world as it was (`eq_of_attempt_failure`). Only a codec that refuses the text
which it is to write stops after something was done: the file is empty then.

Files are processed one after the other. A list of them that stops does so at one of its files, where
those before it were processed (`exec_processAll_error`).

Everything is said for any codecs that the platform may have beside the described encodings.
-/

namespace Handout

/-- The text of a variant is part of the annotated text. -/
theorem Variant.transform_sublist (v : Variant) (text : List Char) :
    (v.transform text).Sublist text := by
  have h := (LineScan.kept_sublist v (Line.ofText text)).flatten
  rwa [Line.flatten_ofText, ← transform_eq_kept] at h

theorem Plan.of_eq_delete {v : Variant} {text : List Char} :
    Plan.of v text = .delete ↔ v.deletionMark.toList <+: text := by
  rw [Plan.of, ← List.isPrefixOf_iff_prefix]
  split <;> simp [*]

theorem Plan.of_eq_rewrite {v : Variant} {text new : List Char} :
    Plan.of v text = .rewrite new ↔
      ¬ v.deletionMark.toList <+: text ∧ v.transform text = new := by
  rw [Plan.of, ← List.isPrefixOf_iff_prefix]
  split <;> simp [*]

/-- What is said of a file whose plan is carried out. -/
def FileResult.ofPlan (p : Path) (text : List Char) : Plan → FileResult
  | .delete => ⟨p, .deleted, true⟩
  | .rewrite new => ⟨p, .rewritten, new != text⟩

@[simp] theorem FileResult.ofPlan_path (p : Path) (text : List Char) (plan : Plan) :
    (ofPlan p text plan).path = p := by
  cases plan <;> rfl

@[simp] theorem FileResult.ofPlan_action (p : Path) (text : List Char) (plan : Plan) :
    (ofPlan p text plan).action = plan.action := by
  cases plan <;> rfl

namespace Processing

open Act

variable {w u : World} {p : Path} {v : Variant} {encoding : String} {codec : Codec}
  {text : List Char} {dryRun : Bool} {s t : Session}

/-! ## Carrying a plan out -/

/-- Whether a text was written, told by what its codec says of it. -/
def writing : Except Refusal (List UInt8) → Except Stop Unit
  | .ok _ => .ok ()
  | .error r => .error (unwritten r)

theorem writing_ne_failure (x : Except Refusal (List UInt8)) (f : Failure) :
    writing x ≠ .error (.failure f) := by
  rcases x with (_ | _) | _ <;> exact nofun

theorem writing_eq_ok {x : Except Refusal (List UInt8)} : writing x = .ok () ↔ ∃ b, x = .ok b := by
  cases x with
  | ok b => exact iff_of_true rfl ⟨b, rfl⟩
  | error r => exact iff_of_false nofun nofun

/-- What carrying a plan out on a file comes to, with the world after it. A file that is written is
emptied first, and stays so when its codec refuses the text. -/
def enact (w : World) (p : Path) (codec : Codec) : Plan → Except Stop Unit × World
  | .delete =>
    match w.unless? .delete p (w.doomed p) with
    | .error e => (.error (.failure ⟨p, .delete, e.reason⟩), w)
    | .ok l => (.ok (), w.erase l)
  | .rewrite text =>
    match w.unless? .write p (w.target p) with
    | .error e => (.error (.failure ⟨p, .write, e.reason⟩), w)
    | .ok l => (writing (codec.encode text), w.put l (.file (written (codec.encode text))))

/-- **A file is rewritten** when it can be opened and its codec has bytes for the text. -/
theorem enact_rewrite_eq_ok :
    enact w p codec (.rewrite text) = (.ok (), u) ↔
      ∃ l bytes, w.unless? .write p (w.target p) = .ok l ∧ codec.encode text = .ok bytes ∧
        u = w.put l (.file bytes) := by
  rw [enact]
  constructor
  · intro h
    split at h
    · cases h
    next l hl =>
      obtain ⟨bytes, hbytes⟩ := writing_eq_ok.mp (congrArg Prod.fst h)
      rw [hbytes] at h
      cases h
      exact ⟨l, bytes, hl, hbytes, rfl⟩
  · rintro ⟨l, bytes, hl, hbytes, rfl⟩
    rw [hl, hbytes]
    rfl

/-- What carrying a plan out comes to, unless the run is dry: then nothing is done. -/
def enactUnless (dryRun : Bool) (w : World) (p : Path) (codec : Codec) (plan : Plan) :
    Except Stop Unit × World :=
  if dryRun then (.ok (), w) else enact w p codec plan

theorem exec_deleteFile (codec : Codec) (s : Session) :
    (deleteFile p).exec s w = ((enact w p codec .delete).1, s, (enact w p codec .delete).2) := by
  refine (exec_call_bind (.delete p) _ s w).trans ?_
  rw [World.answer, enact]
  cases w.unless? .delete p (w.doomed p) <;> rfl

theorem exec_writeText (codec : Codec) (text : List Char) (s : Session) :
    (writeText p codec text).exec s w =
      ((enact w p codec (.rewrite text)).1, s, (enact w p codec (.rewrite text)).2) := by
  refine (exec_call_bind (.write p _) _ s w).trans ?_
  rw [World.answer, enact]
  cases w.unless? .write p (w.target p) with
  | error e => rfl
  | ok l => cases codec.encode text <;> rfl

/-- Carrying a plan out fails with nothing done. -/
theorem eq_of_enact_failure {f : Failure} {plan : Plan}
    (h : enact w p codec plan = (.error (.failure f), u)) : u = w ∧ f.path = p := by
  cases plan with
  | delete =>
    rw [enact] at h
    split at h <;> cases h
    exact ⟨rfl, rfl⟩
  | rewrite new =>
    rw [enact] at h
    split at h
    · cases h
      exact ⟨rfl, rfl⟩
    · exact absurd (congrArg Prod.fst h) (writing_ne_failure _ f)

theorem eq_of_enactUnless_failure {f : Failure} {plan : Plan}
    (h : enactUnless dryRun w p codec plan = (.error (.failure f), u)) : u = w ∧ f.path = p := by
  rw [enactUnless] at h
  split at h
  · cases h
  · exact eq_of_enact_failure h

/-! ## Recording what was done -/

/-- A result, recorded. -/
def recorded (dryRun : Bool) (r : FileResult) : Act FileResult :=
  match r.action with
  | .deleted => do
    Log.event logger .debug "file_deleted" [("path", .text r.path.text), ("dry_run", .bool dryRun)]
    return r
  | .rewritten => do
    Log.event logger .debug "file_rewritten"
      [("path", .text r.path.text), ("changed", .bool r.changed), ("dry_run", .bool dryRun)]
    return r

/-- Recording a result does nothing else. -/
theorem exec_recorded (dryRun : Bool) (r : FileResult) (s : Session) (w : World) :
    ∃ t u, (recorded dryRun r).exec s w = (.ok r, t, u) ∧ w.Noted u := by
  rw [recorded]
  split
  · obtain ⟨t, u, hevent, hnoted⟩ := Log.exec_event logger .debug "file_deleted"
      [("path", .text r.path.text), ("dry_run", .bool dryRun)] s w
    exact ⟨t, u, exec_bind_eq_ok.mpr ⟨_, _, _, hevent, rfl⟩, hnoted⟩
  · obtain ⟨t, u, hevent, hnoted⟩ := Log.exec_event logger .debug "file_rewritten"
      [("path", .text r.path.text), ("changed", .bool r.changed), ("dry_run", .bool dryRun)] s w
    exact ⟨t, u, exec_bind_eq_ok.mpr ⟨_, _, _, hevent, rfl⟩, hnoted⟩

/-- **An act comes to an outcome**: to a stop and a world, or to a result and a world in which records
were written since. -/
def ComesTo {α : Type} (s : Session) (w : World) (x : Act α) : Except Stop α × World → Prop
  | (.error e, u) => x.exec s w = (.error e, s, u)
  | (.ok a, u) => ∃ t u', x.exec s w = (.ok a, t, u') ∧ u.Noted u'

/-- An act that stopped came to the outcome. -/
theorem ComesTo.eq_error {α : Type} {x : Act α} {o : Except Stop α × World} {e : Stop} {u' : World}
    (h : ComesTo s w x o) (hx : x.exec s w = (.error e, t, u')) : o = (.error e, u') ∧ t = s := by
  rcases o with ⟨e' | a, u⟩
  · have hexec : x.exec s w = (.error e', s, u) := h
    rw [hexec] at hx
    cases hx
    exact ⟨rfl, rfl⟩
  · obtain ⟨t', u₁, hexec, _⟩ := h
    rw [hexec] at hx
    cases hx

/-- An act that came to a result came to the outcome, and records were written since. -/
theorem ComesTo.eq_ok {α : Type} {x : Act α} {o : Except Stop α × World} {a : α} {u' : World}
    (h : ComesTo s w x o) (hx : x.exec s w = (.ok a, t, u')) : ∃ u, o = (.ok a, u) ∧ u.Noted u' := by
  rcases o with ⟨e | b, u⟩
  · have hexec : x.exec s w = (.error e, s, u) := h
    rw [hexec] at hx
    cases hx
  · obtain ⟨t', u₁, hexec, hnoted⟩ := h
    rw [hexec] at hx
    cases hx
    exact ⟨u, rfl, hnoted⟩

/-! ## One file -/

variable [Codecs]

/-- The text of a file with its codec, or why there is none. -/
def textOf (w : World) (p : Path) (encoding : String) : Except Stop (Codec × List Char) :=
  if Encoding.isBroken encoding then .error (.unknownEncoding encoding)
  else
    match w.unless? .read p (w.read p) with
    | .error e => .error (.failure ⟨p, .read, e.reason⟩)
    | .ok bytes =>
      match Codec.ofName? encoding with
      | none => .error (.unknownEncoding encoding)
      | some codec =>
        match codec.decode bytes with
        | .ok text => .ok (codec, text)
        | .error (.fault message) => .error (.failure ⟨p, .decode, message⟩)
        | .error (.other reason) => .error (@Stop.unmarked reason)

/-- **A file has a text** when it can be read and its bytes are a text of the encoding named. -/
theorem textOf_eq_ok :
    textOf w p encoding = .ok (codec, text) ↔
      ∃ b, w.unless? .read p (w.read p) = .ok b ∧ Codec.ofName? encoding = some codec ∧
        codec.decode b = .ok text := by
  constructor
  · intro h
    rw [textOf] at h
    split at h
    · cases h
    split at h
    · cases h
    next b hread =>
      split at h
      · cases h
      next codec' hname =>
        split at h
        · next text' hb =>
          cases h
          exact ⟨b, hread, hname, hb⟩
        · cases h
        · cases h
  · rintro ⟨b, hread, hname, hb⟩
    rw [textOf, Codec.not_isBroken_of_ofName? hname, hread, hname]
    simp only [Bool.false_eq_true, if_false, hb]

theorem exec_readText (s : Session) :
    (readText p encoding).exec s w = (textOf w p encoding, s, w) := by
  rw [readText, textOf]
  split
  · rfl
  refine (exec_call_bind (.read p) _ s w).trans ?_
  simp only [World.answer]
  cases w.unless? .read p (w.read p) with
  | error e => rfl
  | ok bytes =>
    cases Codec.ofName? encoding with
    | none => rfl
    | some codec =>
      simp only
      rcases codec.decode bytes with (message | reason) | text <;> rfl

/-- **The processing of a file, events apart**: a result and the world with its plan carried out, or
a stop and the world that it leaves. -/
def attempt (w : World) (p : Path) (v : Variant) (encoding : String) (dryRun : Bool) :
    Except Stop FileResult × World :=
  match textOf w p encoding with
  | .error e => (.error e, w)
  | .ok (codec, text) =>
    let done := enactUnless dryRun w p codec (Plan.of v text)
    (done.1.map fun _ => .ofPlan p text (Plan.of v text), done.2)

/-- **A file was processed** when it has a text whose plan was carried out. -/
theorem attempt_eq_ok {r : FileResult} :
    attempt w p v encoding dryRun = (.ok r, u) ↔
      ∃ codec text, textOf w p encoding = .ok (codec, text) ∧
        enactUnless dryRun w p codec (Plan.of v text) = (.ok (), u) ∧
        r = .ofPlan p text (Plan.of v text) := by
  rw [attempt]
  cases textOf w p encoding with
  | error e => simp
  | ok a =>
    obtain ⟨codec, text⟩ := a
    simp only [Prod.mk.injEq, Except.map_eq_ok, Except.ok.injEq]
    constructor
    · rintro ⟨⟨_, hdone, rfl⟩, rfl⟩
      exact ⟨codec, text, ⟨rfl, rfl⟩, Prod.ext hdone rfl, rfl⟩
    · rintro ⟨_, _, ⟨rfl, rfl⟩, hdone, rfl⟩
      exact ⟨⟨(), congrArg Prod.fst hdone, rfl⟩, congrArg Prod.snd hdone⟩

/-- **A file was not processed** when it has no text, or the plan of its text was not carried out. -/
theorem attempt_eq_error {e : Stop} :
    attempt w p v encoding dryRun = (.error e, u) ↔
      textOf w p encoding = .error e ∧ u = w ∨
      ∃ codec text, textOf w p encoding = .ok (codec, text) ∧
        enactUnless dryRun w p codec (Plan.of v text) = (.error e, u) := by
  rw [attempt]
  cases textOf w p encoding with
  | error e => simp [eq_comm]
  | ok a =>
    obtain ⟨codec, text⟩ := a
    simp only [Prod.mk.injEq, Except.map_eq_error, Except.ok.injEq, reduceCtorEq, false_and, false_or]
    constructor
    · rintro ⟨hdone, rfl⟩
      exact ⟨codec, text, ⟨rfl, rfl⟩, Prod.ext hdone rfl⟩
    · rintro ⟨_, _, ⟨rfl, rfl⟩, hdone⟩
      exact ⟨congrArg Prod.fst hdone, congrArg Prod.snd hdone⟩

/-- **A file is processed as attempted**, and the result is recorded. -/
theorem exec_processFile (w : World) (p : Path) (v : Variant) (encoding : String) (dryRun : Bool)
    (s : Session) :
    (processFile p v (some encoding) dryRun).exec s w =
      match attempt w p v encoding dryRun with
      | (.error e, u) => (.error e, s, u)
      | (.ok r, u) => (recorded dryRun r).exec s u := by
  refine (exec_bind (readText p encoding) _ s w).trans ?_
  rw [exec_readText, attempt]
  cases textOf w p encoding with
  | error e => rfl
  | ok a =>
    obtain ⟨codec, text⟩ := a
    dsimp only
    cases Plan.of v text with
    | delete =>
      cases dryRun with
      | true => rfl
      | false =>
        refine (exec_bind (deleteFile p) _ s w).trans ?_
        rw [exec_deleteFile codec]
        simp only [enactUnless, Bool.false_eq_true, if_false]
        rcases enact w p codec .delete with ⟨_ | _, u⟩ <;> rfl
    | rewrite new =>
      cases dryRun with
      | true => rfl
      | false =>
        refine (exec_bind (writeText p codec new) _ s w).trans ?_
        rw [exec_writeText]
        simp only [enactUnless, Bool.false_eq_true, if_false]
        rcases enact w p codec (.rewrite new) with ⟨_ | _, u⟩ <;> rfl

theorem comesTo_processFile (w : World) (p : Path) (v : Variant) (encoding : String) (dryRun : Bool)
    (s : Session) :
    ComesTo s w (processFile p v (some encoding) dryRun) (attempt w p v encoding dryRun) := by
  have hexec := exec_processFile w p v encoding dryRun s
  rcases ha : attempt w p v encoding dryRun with ⟨e | r, u⟩
  · rw [ha] at hexec
    exact hexec
  · rw [ha] at hexec
    obtain ⟨t, u', hrecorded, hnoted⟩ := exec_recorded dryRun r s u
    exact ⟨t, u', hexec.trans hrecorded, hnoted⟩

/-! ## What a failure tells -/

theorem path_of_textOf {f : Failure} (h : textOf w p encoding = .error (.failure f)) :
    f.path = p := by
  rw [textOf] at h
  split at h
  · cases h
  split at h
  · cases h; rfl
  split at h
  · cases h
  split at h <;> cases h
  rfl

/-- **A failure leaves the world as it was** and names the file that was being processed. -/
theorem eq_of_attempt_failure {f : Failure}
    (h : attempt w p v encoding dryRun = (.error (.failure f), u)) : u = w ∧ f.path = p := by
  rcases attempt_eq_error.mp h with ⟨ht, hu⟩ | ⟨codec, text, _, he⟩
  · exact ⟨hu, path_of_textOf ht⟩
  · exact eq_of_enactUnless_failure he

/-! ## Files one after the other -/

/-- **Files that could not all be processed** were processed up to one that could not, and what
comes after that one does not matter. -/
theorem exec_processAll_error {paths : List Path} {e : Stop}
    (h : (Run.processAll v encoding dryRun paths).exec s w = (.error e, t, u)) :
    ∃ k, ∃ hk : k < paths.length, ∃ results u₁,
      (Run.processAll v encoding dryRun (paths.take k)).exec s w = (.ok results, t, u₁) ∧
      (processFile paths[k] v (some encoding) dryRun).exec t u₁ = (.error e, t, u) ∧
      ∀ rest, (Run.processAll v encoding dryRun (paths.take k ++ paths[k] :: rest)).exec s w =
        (.error e, t, u) := by
  induction paths generalizing s w with
  | nil => cases h
  | cons p ps ih =>
    rcases exec_bind_eq_error.mp h with hp | ⟨r, s₁, w₁, hp, hps⟩
    · obtain ⟨_, rfl⟩ := (comesTo_processFile w p v encoding dryRun s).eq_error hp
      exact ⟨0, Nat.succ_pos _, [], w, rfl, hp, fun rest => exec_bind_eq_error.mpr (.inl hp)⟩
    · rcases exec_bind_eq_error.mp hps with hps | ⟨rs, s₂, w₂, _, hrest⟩
      · obtain ⟨k, hk, rs, u₁, hdone, hfail, hany⟩ := ih hps
        refine ⟨k + 1, Nat.succ_lt_succ hk, r :: rs, u₁, ?_, hfail, fun rest => ?_⟩
        · exact exec_bind_eq_ok.mpr ⟨_, _, _, hp, exec_bind_eq_ok.mpr ⟨_, _, _, hdone, rfl⟩⟩
        · exact exec_bind_eq_error.mpr
            (.inr ⟨_, _, _, hp, exec_bind_eq_error.mpr (.inl (hany rest))⟩)
      · cases hrest

end Processing

end Handout
