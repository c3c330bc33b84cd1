import Handout.Proofs.Runs

/-!
# Why a file is not processed

The processing of a file comes to a result for it or stops, and it stops for one of eight causes
(`Refused`). Four of them are failures of an operation on the file, which name the file and the
operation. The other four are no failures that the program reports: a name that no encoding has, before
or after the file is open, bytes that a codec refuses without a fault in them, and a text that a codec
refuses to write (`refused_without_failure`). In the last case only is something done: the file is
empty.

In the described encodings, but for the one that switches, there is one such cause, a missing mark
(`failure_or_unmarked_of_refused`).

**What it does not establish.** Nothing is said of the load of the settings that an encoding may be
taken from; it may stop as well.
-/

namespace Handout.Processing

open Act World

section

variable [Codecs] {w w₁ z : World} {p : Path} {v : Variant} {encoding : Option String} {name : String}
  {codec : Codec} {dryRun : Bool} {stop : Stop} {s s₁ : Session}

/-- **Why a file is not processed**, with the world that is left. A broken name is refused first. Then
the bytes are read, there is a codec or none, the bytes are a text of it or not, and only then is
something done. -/
inductive Refused (w : World) (p : Path) (v : Variant) (name : String) (dryRun : Bool) :
    Stop → World → Prop
  | broken (h : Encoding.isBroken name) : Refused w p v name dryRun (.unknownEncoding name) w
  | read {e : OsError} (hname : ¬ Encoding.isBroken name)
      (h : w.unless? .read p (w.read p) = .error e) :
      Refused w p v name dryRun (.failure ⟨p, .read, e.reason⟩) w
  | unknown {b : List UInt8} (hread : w.unless? .read p (w.read p) = .ok b)
      (h : Codec.ofName? name = none) : Refused w p v name dryRun (.unknownEncoding name) w
  | decode {b : List UInt8} {codec : Codec} {message : String}
      (hread : w.unless? .read p (w.read p) = .ok b) (hname : Codec.ofName? name = some codec)
      (h : codec.decode b = .error (.fault message)) :
      Refused w p v name dryRun (.failure ⟨p, .decode, message⟩) w
  | unread {b : List UInt8} {codec : Codec} {reason : String}
      (hread : w.unless? .read p (w.read p) = .ok b) (hname : Codec.ofName? name = some codec)
      (h : codec.decode b = .error (.other reason)) :
      Refused w p v name dryRun (@Stop.unmarked reason) w
  | delete {codec : Codec} {text : List Char} {e : OsError}
      (htext : textOf w p name = .ok (codec, text)) (hplan : Plan.of v text = .delete)
      (hdry : dryRun = false) (h : w.unless? .delete p (w.doomed p) = .error e) :
      Refused w p v name dryRun (.failure ⟨p, .delete, e.reason⟩) w
  | write {codec : Codec} {text new : List Char} {e : OsError}
      (htext : textOf w p name = .ok (codec, text)) (hplan : Plan.of v text = .rewrite new)
      (hdry : dryRun = false) (h : w.unless? .write p (w.target p) = .error e) :
      Refused w p v name dryRun (.failure ⟨p, .write, e.reason⟩) w
  | unwritten {codec : Codec} {text new : List Char} {l : Location} {r : Refusal}
      (htext : textOf w p name = .ok (codec, text)) (hplan : Plan.of v text = .rewrite new)
      (hdry : dryRun = false) (hl : w.unless? .write p (w.target p) = .ok l)
      (h : codec.encode new = .error r) :
      Refused w p v name dryRun (unwritten r) (w.put l (.file []))

theorem attempt_of_refused (h : Refused w p v name dryRun stop z) :
    attempt w p v name dryRun = (.error stop, z) := by
  rw [attempt_eq_error]
  cases h with
  | broken h => exact .inl ⟨by rw [textOf, if_pos h], rfl⟩
  | read hname h => exact .inl ⟨by rw [textOf, if_neg hname, h], rfl⟩
  | unknown hread h => exact .inl ⟨by rw [textOf, hread, h, ite_self], rfl⟩
  | decode hread hname h =>
    refine .inl ⟨?_, rfl⟩
    rw [textOf, Codec.not_isBroken_of_ofName? hname, hread, hname]
    simp only [h, Bool.false_eq_true, if_false]
  | unread hread hname h =>
    refine .inl ⟨?_, rfl⟩
    rw [textOf, Codec.not_isBroken_of_ofName? hname, hread, hname]
    simp only [h, Bool.false_eq_true, if_false]
  | delete htext hplan hdry h =>
    refine .inr ⟨_, _, htext, ?_⟩
    rw [enactUnless, hdry, hplan, enact, h]
    rfl
  | write htext hplan hdry h =>
    refine .inr ⟨_, _, htext, ?_⟩
    rw [enactUnless, hdry, hplan, enact, h]
    rfl
  | unwritten htext hplan hdry hl h =>
    refine .inr ⟨_, _, htext, ?_⟩
    rw [enactUnless, hdry, hplan, enact, hl, h]
    rfl

/-- **In a described encoding**, but for the one that switches, a cause is a failure that names the
file or a mark that is missed, and nothing is done. -/
theorem failure_or_unmarked_of_refused {enc : Encoding} (hname : Encoding.ofName? name = some enc)
    (henc : enc ≠ .switched) (h : Refused w p v name dryRun stop z) :
    z = w ∧ ((∃ f, stop = .failure f ∧ f.path = p) ∨
      enc = .utf16Marked ∧ stop = @Stop.unmarked "UTF-16 stream does not start with BOM") := by
  have hcodec := Codec.ofName?_of_described hname
  cases h with
  | broken h => rw [Codec.not_isBroken_of_ofName? hcodec] at h; cases h
  | read => exact ⟨rfl, .inl ⟨_, rfl, rfl⟩⟩
  | unknown _ h => rw [hcodec] at h; cases h
  | decode => exact ⟨rfl, .inl ⟨_, rfl, rfl⟩⟩
  | unread _ hname' h =>
    obtain rfl := Codec.eq_of_described hname hname'
    obtain ⟨rfl, henc, -⟩ := Encoding.decode_eq_other.mp h
    exact ⟨rfl, .inr ⟨henc, rfl⟩⟩
  | delete => exact ⟨rfl, .inl ⟨_, rfl, rfl⟩⟩
  | write => exact ⟨rfl, .inl ⟨_, rfl, rfl⟩⟩
  | unwritten htext hplan _ _ h =>
    obtain ⟨bytes, hbytes⟩ := writable_of_described hname henc _ _ _ htext hplan
    rw [hbytes] at h
    cases h

/-- A file is processed in the encoding whose name was found. -/
theorem exec_processFile_of_name (hname : (encodingName encoding).exec s w = (.ok name, s₁, w₁)) :
    (processFile p v encoding dryRun).exec s w =
      (processFile p v (some name) dryRun).exec s₁ w₁ := by
  rw [processFile, exec_bind, hname]
  rfl

omit [Codecs] in
theorem confined_encodingName (encoding : Option String) :
    Confined Eq (fun _ => True) (encodingName encoding) := by
  cases encoding with
  | none =>
    refine .bind lasting_eq (Config.confined_settings.mono (fun _ _ h => h) fun _ _ => trivial) ?_
    exact fun st => confined_pure lasting_eq _
  | some n => exact confined_pure lasting_eq _

end

open Run (plain loaded top attached escapedFile attempt_escapedFile)

end Handout.Processing
