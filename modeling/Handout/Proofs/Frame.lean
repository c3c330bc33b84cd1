import Handout.Proofs.Discovery

/-!
# What a run leaves alone

The processing of one file reads it and then writes it in place, empties it, or takes its entry away;
that is all it can do (`Worked`, `Emptied`, `exists_worked`). A **frame** is what is left of a world by
that: files that no path of some kind leads to are as they were, entries that no such path names are
still what they were, and nothing is where nothing was (`World.Framed`). Frames in a row are a frame,
because a path that names an entry in the later world named it before: entries are only taken away.

So a run without a log file changes what its candidates lead to and nothing else, wherever it stops
(`run_frame`).
-/

namespace Handout

open Act

namespace Processing

open World

variable {w u : World} {p : Path} {v : Variant} {encoding : String} {codec : Codec}
  {text : List Char} {dryRun : Bool} {r : FileResult} {l : Location} {b : List UInt8}

/-! ## One file -/

/-- **What can be done to the file that a path leads to**: its entry is taken away, or it is written. -/
inductive Touched (w : World) (p : Path) : World → Prop
  | deleted {l d : Location} {b : List UInt8} {e : Entry} (hp : w.Holds p l b)
      (hfind : w.find false p = .ok d) (hd : w.store.get? d = some e) (hdir : e ≠ .dir)
      (hg : w.store.GoesTo d l) : Touched w p (w.erase d)
  | written {l : Location} {b : List UInt8} (hp : w.Holds p l b) (bytes : List UInt8) :
      Touched w p (w.put l (.file bytes))

theorem Touched.handled (h : Touched w p u) : ∃ l b, w.Holds p l b ∧ w.Handled l u := by
  cases h with
  | deleted hp _ hd hdir hg => exact ⟨_, _, hp, .deleted hp.file hd hdir hg⟩
  | written hp bytes => exact ⟨_, _, hp, .written hp.file bytes⟩

theorem Touched.log (h : Touched w p u) (hlog : w.log = none) : u.log = none := by
  cases h with
  | deleted => rw [erase, hlog]; rfl
  | written => exact hlog

variable [Codecs]

/-- **What is done to a file** that has a text: its entry is taken away when the text asks for it,
and else the file is written with the text of the variant. -/
inductive Worked (w : World) (p : Path) (v : Variant) (encoding : String) : World → Prop
  | deleted {codec : Codec} {text : List Char} {l d : Location} {b : List UInt8} {e : Entry}
      (hname : Codec.ofName? encoding = some codec) (hp : w.Holds p l b)
      (hb : codec.decode b = .ok text) (hplan : Plan.of v text = .delete)
      (hfind : w.find false p = .ok d) (hd : w.store.get? d = some e) (hdir : e ≠ .dir)
      (hg : w.store.GoesTo d l) : Worked w p v encoding (w.erase d)
  | written {codec : Codec} {text : List Char} {l : Location} {b bytes : List UInt8}
      (hname : Codec.ofName? encoding = some codec) (hp : w.Holds p l b)
      (hb : codec.decode b = .ok text) (hplan : Plan.of v text = .rewrite (v.transform text))
      (hbytes : codec.encode (v.transform text) = .ok bytes) :
      Worked w p v encoding (w.put l (.file bytes))

/-- **What is left of a file whose text cannot be written**: it is empty. -/
inductive Emptied (w : World) (p : Path) (v : Variant) (encoding : String) : World → Prop
  | intro {codec : Codec} {text : List Char} {l : Location} {b : List UInt8} {r : Refusal}
      (hname : Codec.ofName? encoding = some codec) (hp : w.Holds p l b)
      (hb : codec.decode b = .ok text) (hplan : Plan.of v text = .rewrite (v.transform text))
      (hcode : codec.encode (v.transform text) = .error r) :
      Emptied w p v encoding (w.put l (.file []))

theorem Worked.touched (h : Worked w p v encoding u) : Touched w p u := by
  cases h with
  | deleted _ hp _ _ hfind hd hdir hg => exact .deleted hp hfind hd hdir hg
  | written _ hp => exact .written hp _

theorem Emptied.touched (h : Emptied w p v encoding u) : Touched w p u := by
  cases h with
  | intro _ hp => exact .written hp _

/-- **Carrying a plan out** does nothing and fails, does what is to be done, or empties the file. -/
theorem worked_of_enact {x : Except Stop Unit} (hname : Codec.ofName? encoding = some codec)
    (hp : w.Holds p l b) (hb : codec.decode b = .ok text)
    (h : enact w p codec (Plan.of v text) = (x, u)) :
    Worked w p v encoding u ∨ (∃ e, x = .error e) ∧ (u = w ∨ Emptied w p v encoding u) := by
  cases hplan : Plan.of v text with
  | delete =>
    obtain ⟨d, e, hfind, hd, hdir, hdoomed, hg⟩ := hp.exists_doomed
    rw [hplan, enact] at h
    cases hx : w.unless? .delete p (w.doomed p) with
    | error e =>
      rw [hx] at h
      cases h
      exact .inr ⟨⟨_, rfl⟩, .inl rfl⟩
    | ok d' =>
      rw [hx] at h
      cases h
      obtain rfl := Except.ok.inj (hdoomed.symm.trans (unless?_eq_ok.mp hx).2)
      exact .inl (.deleted hname hp hb hplan hfind hd hdir hg)
  | rewrite new =>
    obtain rfl : v.transform text = new := (Plan.of_eq_rewrite.mp hplan).2
    rw [hplan, enact] at h
    cases hx : w.unless? .write p (w.target p) with
    | error e =>
      rw [hx] at h
      cases h
      exact .inr ⟨⟨_, rfl⟩, .inl rfl⟩
    | ok l' =>
      rw [hx] at h
      obtain rfl := Except.ok.inj (hp.target_eq.symm.trans (unless?_eq_ok.mp hx).2)
      cases hcode : codec.encode (v.transform text) with
      | ok bytes =>
        rw [hcode] at h
        cases h
        exact .inl (.written hname hp hb hplan hcode)
      | error r =>
        rw [hcode] at h
        cases h
        exact .inr ⟨⟨_, rfl⟩, .inr (.intro hname hp hb hplan hcode)⟩

/-- What is attempted with a file does nothing and fails, does what is to be done, or empties it. -/
theorem worked_of_attempt {x : Except Stop FileResult}
    (h : attempt w p v encoding false = (x, u)) :
    Worked w p v encoding u ∨ (∃ e, x = .error e) ∧ (u = w ∨ Emptied w p v encoding u) := by
  rw [attempt] at h
  cases ht : textOf w p encoding with
  | error e =>
    rw [ht] at h
    cases h
    exact .inr ⟨⟨e, rfl⟩, .inl rfl⟩
  | ok a =>
    obtain ⟨codec, text⟩ := a
    rw [ht] at h
    obtain ⟨b, hread, hname, hb⟩ := textOf_eq_ok.mp ht
    obtain ⟨l, hp⟩ := read_eq_ok.mp (unless?_eq_ok.mp hread).2
    rcases hdone : enact w p codec (Plan.of v text) with ⟨y, z⟩
    simp only [enactUnless, Bool.false_eq_true, if_false, hdone] at h
    cases h
    rcases worked_of_enact hname hp hb hdone with hworked | ⟨⟨e, rfl⟩, hleft⟩
    · exact .inl hworked
    · exact .inr ⟨⟨e, rfl⟩, hleft⟩

/-- A file that was processed was worked on, and then records were written. -/
theorem worked_of_exec {s t : Session}
    (h : (processFile p v (some encoding) false).exec s w = (.ok r, t, u)) :
    ∃ u₀, Worked w p v encoding u₀ ∧ u₀.Noted u := by
  obtain ⟨u₀, ha, hnoted⟩ := (comesTo_processFile w p v encoding false s).eq_ok h
  refine ⟨u₀, (worked_of_attempt ha).resolve_right ?_, hnoted⟩
  rintro ⟨⟨e, he⟩, -⟩
  cases he

/-- **What the processing of a file can do**, whether it comes to a result or stops: nothing, or
what is to be done to the file or to empty it, and then records. -/
theorem exists_worked {x : Except Stop FileResult} {s t : Session}
    (h : (processFile p v (some encoding) dryRun).exec s w = (x, t, u)) :
    ∃ u₀, (u₀ = w ∨ dryRun = false ∧ (Worked w p v encoding u₀ ∨ Emptied w p v encoding u₀)) ∧
      u₀.Noted u := by
  cases dryRun with
  | true =>
    cases x with
    | ok r => exact ⟨w, .inl rfl, (foretold_of_exec h).2⟩
    | error e =>
      obtain ⟨ha, -⟩ := (comesTo_processFile w p v encoding true s).eq_error h
      rcases attempt_eq_error.mp ha with ⟨-, rfl⟩ | ⟨_, _, -, hdry⟩
      · exact ⟨u, .inl rfl, .same⟩
      · cases hdry
  | false =>
    cases x with
    | ok r =>
      obtain ⟨u₀, hworked, hnoted⟩ := worked_of_exec h
      exact ⟨u₀, .inr ⟨rfl, .inl hworked⟩, hnoted⟩
    | error e =>
      obtain ⟨ha, -⟩ := (comesTo_processFile w p v encoding false s).eq_error h
      refine ⟨u, ?_, .same⟩
      rcases worked_of_attempt ha with hworked | ⟨-, hsame | hemptied⟩
      · exact .inr ⟨rfl, .inl hworked⟩
      · exact .inl hsame
      · exact .inr ⟨rfl, .inr hemptied⟩

end Processing

namespace World

open Processing

variable {u w z : World} {p : Path} {P : Path → Prop}

/-! ## Frames -/

/-- **The frame of some paths**: what they do not lead to and do not name is as it was. An entry
that they name is as it was or gone, and a path that names an entry named it before. -/
structure Framed (P : Path → Prop) (w u : World) : Prop where
  file : ∀ {l b}, w.store.get? l = some (.file b) → (∀ p, P p → w.find true p ≠ .ok l) →
    u.store.get? l = some (.file b)
  entry : ∀ {d}, (∀ p, P p → w.find false p ≠ .ok d) →
    (u.store.get? d).map Entry.shape = (w.store.get? d).map Entry.shape
  left : ∀ d, u.store.get? d = none ∨
    (u.store.get? d).map Entry.shape = (w.store.get? d).map Entry.shape
  find_eq : ∀ {follow q d e}, u.find follow q = .ok d → u.store.get? d = some e →
    w.find follow q = .ok d

theorem SameFiles.framed (h : w.SameFiles u) : Framed P w u where
  file hl _ := by rw [h.store]; exact hl
  entry _ := by rw [h.store]
  left _ := .inr (by rw [h.store])
  find_eq hf _ := h.find _ _ ▸ hf

theorem Framed.get?_eq_none {d : Location} (h : Framed P w u) (hd : w.store.get? d = none) :
    u.store.get? d = none := by
  rcases h.left d with hn | hn
  · exact hn
  · rwa [hd, Option.map_none, Option.map_eq_none_iff] at hn

/-- **Frames in a row are a frame.** -/
theorem Framed.trans (h : Framed P w u) (k : Framed P u z) : Framed P w z where
  file := by
    intro l b hl hP
    refine k.file (h.file hl hP) fun p hp hf => hP p hp ?_
    exact h.find_eq hf (h.file hl hP)
  entry := by
    intro d hP
    cases hd : u.store.get? d with
    | none =>
      have hshape := h.entry hP
      rw [k.get?_eq_none hd, ← hshape, hd]
    | some e =>
      rw [k.entry fun p hp hf => hP p hp (h.find_eq hf hd), h.entry hP]
  left := by
    intro d
    rcases k.left d with hz | hz
    · exact .inl hz
    · rcases h.left d with hu | hu
      · rw [hu, Option.map_none, Option.map_eq_none_iff] at hz
        exact .inl hz
      · exact .inr (hz.trans hu)
  find_eq := by
    intro follow q d e hf hd
    have hu := k.find_eq hf hd
    cases he : u.store.get? d with
    | none => rw [k.get?_eq_none he] at hd; cases hd
    | some e' => exact h.find_eq hu he

/-- **What is done to a file** is within the frame of its path. -/
theorem framed_of_touched (h : Touched w p u) (hP : P p) : Framed P w u := by
  obtain ⟨l, b, hp, hhandled⟩ := h.handled
  refine ⟨fun {k c} hk hout => ?_, fun {d} hout => ?_, fun d => ?_, hhandled.find_eq⟩
  · refine hhandled.get?_of_file hk ?_
    rintro rfl
    exact hout p hP hp.found
  · cases h with
    | deleted _ hfind hd hdir _ =>
      have hne : d ≠ _ := fun heq => hout p hP (heq ▸ hfind)
      rw [erase, Store.get?_erase _ _ _ (ne_nil_of_entry hd hdir), if_neg hne]
    | written hp' _ => exact (Store.alike_put hp'.file _ d).symm
  · cases h with
    | deleted _ _ hd hdir _ =>
      rw [erase, Store.get?_erase _ _ _ (ne_nil_of_entry hd hdir)]
      split
      · exact .inl rfl
      · exact .inr rfl
    | written hp' _ => exact .inr (Store.alike_put hp'.file _ d).symm

/-- Nothing leads anywhere in a frame that it did not lead to before. -/
theorem Framed.isFile (h : Framed P w u) (hp : u.IsFile p) : w.IsFile p := by
  obtain ⟨l, b, hl⟩ := hp
  have hfind := h.find_eq hl.found hl.file
  rcases h.left l with hn | hshape
  · rw [hl.file] at hn
    cases hn
  · rcases Store.eq_or_files_of_shape hshape with heq | ⟨_, c, _, hc⟩
    · exact ⟨l, b, hfind, heq ▸ hl.file⟩
    · exact ⟨l, c, hfind, hc⟩

theorem Framed.isDirectory (h : Framed P w u) (hp : u.IsDirectory p) : w.IsDirectory p := by
  obtain ⟨l, hl, hdir⟩ := hp
  refine ⟨l, h.find_eq hl hdir, ?_⟩
  rcases h.left l with hn | hshape
  · rw [hdir] at hn
    cases hn
  · rcases Store.eq_or_files_of_shape hshape with heq | ⟨_, _, hx, _⟩
    · exact heq ▸ hdir
    · rw [hdir] at hx
      cases hx

theorem Framed.named (h : Framed P w u) (hw : w.store.Named) : u.store.Named := by
  intro l n hn
  refine hw l n (Store.mem_names.mpr ?_)
  rw [Option.isSome_iff_ne_none]
  intro hnone
  have hsome := Store.mem_names.mp hn
  rw [h.get?_eq_none hnone] at hsome
  cases hsome

/-! ## Without a log file -/

/-- Moves along a relation that start without a log file, and end without one. -/
def Silent (R : World → World → Prop) (w u : World) : Prop :=
  w.log = none → u.log = none ∧ R w u

end World

theorem Act.lasting_silent {R : World → World → Prop} (hR : Act.Lasting R) :
    Act.Lasting (World.Silent R) where
  refl w hlog := ⟨hlog, hR.refl w⟩
  trans h k hlog :=
    have hu := h hlog
    have hz := k hu.1
    ⟨hz.1, hR.trans hu.2 hz.2⟩

theorem World.lasting_noted : Act.Lasting World.Noted :=
  ⟨fun _ => .same, World.Noted.trans⟩

theorem World.lasting_sameFiles : Act.Lasting World.SameFiles :=
  ⟨World.SameFiles.refl, World.SameFiles.trans⟩

theorem World.lasting_framed (P : Path → Prop) : Act.Lasting (World.Framed P) :=
  ⟨fun w => (World.SameFiles.refl w).framed, World.Framed.trans⟩

namespace Processing

open World

variable [Codecs] {w u : World} {p : Path} {v : Variant} {encoding : String} {dryRun : Bool}
  {R : World → World → Prop} {E : Stop → Prop}

/-- The processing of a file moves a world without a log file along what is done to the file. -/
theorem confined_processFile (hR : Lasting R) (hsame : ∀ {w u}, w.SameFiles u → R w u)
    (hwork : ∀ {w u}, dryRun = false → Worked w p v encoding u ∨ Emptied w p v encoding u → R w u) :
    Confined (Silent R) (fun _ => True) (processFile p v (some encoding) dryRun) := by
  intro s w
  refine ⟨fun hlog => ?_, fun _ _ => trivial⟩
  obtain ⟨u₀, h, hnoted⟩ := exists_worked (Prod.ext rfl (Prod.ext rfl rfl))
  rcases h with rfl | ⟨hdry, hworked⟩
  · exact ⟨hnoted.fixed.2.2.trans hlog, hsame (hnoted.sameFiles hlog)⟩
  · have hlog := (hworked.elim Worked.touched Emptied.touched).log hlog
    exact ⟨hnoted.fixed.2.2.trans hlog,
      hR.trans (hwork hdry hworked) (hsame (hnoted.sameFiles hlog))⟩

theorem confined_processAll (hR : Lasting R) {paths : List Path}
    (h : ∀ p ∈ paths, Confined R (fun _ => True) (processFile p v (some encoding) dryRun)) :
    Confined R (fun _ => True) (Run.processAll v encoding dryRun paths) := by
  induction paths with
  | nil => exact confined_pure hR _
  | cons p ps ih =>
    obtain ⟨hp, hps⟩ := List.forall_mem_cons.mp h
    refine .bind hR hp fun r => ?_
    exact .bind hR (ih hps) fun rs => confined_pure hR _

end Processing

namespace Run

open World Processing

variable {root : Path} {v : Variant} {settings : Option Settings} {dryRun : Bool}
  {s t : Session} {w u : World} {R : World → World → Prop}

/-! ## A run -/

theorem confined_discover (extensions ignored : Option (List String)) :
    Confined Noted (fun _ => True) (discover root extensions ignored) := by
  intro s w
  refine ⟨?_, fun _ _ => trivial⟩
  rcases h : (discover root extensions ignored).exec s w with ⟨e | paths, t, u⟩
  · rw [exec_discover_error h]
    exact .same
  · exact exec_discover_ok h

/-- The first phase of a run without a log file changes no file, wherever it stops. -/
theorem sameFiles_of_unlogged {x : Except Stop (Settings × List Path)} (h : Log.Unlogged s w)
    (hx : (candidates root v settings).exec s w = (x, t, u)) :
    w.SameFiles u ∧ (∀ found, x = .ok found → u.log = none) := by
  rw [candidates, exec_bind] at hx
  rcases hensure : (Log.ensure none).exec s w with ⟨e | _, s₁, w₁⟩
  · rw [hensure] at hx
    cases hx
    exact ⟨(h.exec_ensure hensure).1, fun _ hx => nomatch hx⟩
  · rw [hensure] at hx
    obtain ⟨hsame, hnone⟩ := h.exec_ensure hensure
    have hlog := hnone rfl
    -- what comes after logging is set up only looks and records
    have hrest : Confined Noted (fun _ => True) (do
        let settings ← known settings
        Log.bindFields (context root v)
        let paths ← discover root (some settings.discovery.extensions)
          (some settings.discovery.ignoreNames)
        return (settings, paths)) := by
      have hknown : Confined Noted (fun _ => True) (known settings) :=
        (confined_known settings).mono (fun _ _ h => h ▸ .same) fun _ _ => trivial
      refine .bind lasting_noted hknown fun st => ?_
      refine .bind lasting_noted (confined_modify lasting_noted _) fun _ => ?_
      exact .bind lasting_noted (confined_discover _ _) fun _ => confined_pure lasting_noted _
    have hnoted := hrest.moved hx
    exact ⟨hsame.trans (hnoted.sameFiles hlog), fun _ _ => hnoted.fixed.2.2.trans hlog⟩

/-- A path that a run finds. -/
def Discovered (root : Path) (v : Variant) (settings : Option Settings) (s : Session) (w : World)
    (p : Path) : Prop :=
  ∃ st paths t u, (candidates root v settings).exec s w = (.ok (st, paths), t, u) ∧ p ∈ paths

/-- **A run moves the world as the processing of its files does**, wherever it stops. -/
theorem moved_of_run [Codecs] (hR : Lasting R) (hsame : ∀ {w u}, w.SameFiles u → R w u)
    (hlog : Log.Unlogged s w)
    (hprocess : ∀ {st paths t u}, (candidates root v settings).exec s w = (.ok (st, paths), t, u) →
      ∀ p ∈ paths,
        Confined (Silent R) (fun _ => True)
          (processFile p v (some st.processing.encoding) dryRun)) :
    R w ((run root v settings dryRun).exec s w).2.2 := by
  rcases hfound : (candidates root v settings).exec s w with ⟨e | ⟨st, paths⟩, s₁, w₁⟩
  · obtain ⟨t', hrun⟩ := exec_run_of_failed hfound dryRun
    rw [hrun]
    exact hsame (sameFiles_of_unlogged hlog hfound).1
  · obtain ⟨hfirst, hnone⟩ := sameFiles_of_unlogged hlog hfound
    have hS := lasting_silent hR
    have hevent : ∀ fields, Confined (Silent R) (fun _ => True)
        (Log.event logger .info "run_completed" fields) := by
      intro fields
      refine (Log.confined_event _ _ _ fields).mono (fun w u hnoted hlog => ?_) fun _ h => h
      exact ⟨hnoted.fixed.2.2.trans hlog, hsame (hnoted.sameFiles hlog)⟩
    have hrest := Confined.bind hS (confined_processAll hS (hprocess hfound)) fun results =>
      .bind hS (hevent (RunReport.summary ⟨root, v, dryRun, results⟩)) fun _ =>
        confined_pure hS (⟨root, v, dryRun, results⟩ : RunReport)
    rw [exec_run_of_candidates hfound dryRun]
    exact hR.trans (hsame hfirst) ((hrest s₁ w₁).1 (hnone _ rfl)).2

/-- A run stays in the frame of what it finds. -/
theorem framed_of_run [Codecs] (hlog : Log.Unlogged s w)
    (hrun : ((run root v settings dryRun).exec s w).2.2 = u) :
    Framed (Discovered root v settings s w) w u := by
  rw [← hrun]
  refine moved_of_run (lasting_framed _) SameFiles.framed hlog fun hfound p hp => ?_
  refine confined_processFile (lasting_framed _) SameFiles.framed fun _ hworked => ?_
  exact framed_of_touched (hworked.elim Worked.touched Emptied.touched) ⟨_, _, _, _, hfound, hp⟩

/-- **The frame of a run.** -/
theorem run_frame [Codecs] (hlog : Log.Unlogged s w)
    (hrun : ((run root v settings dryRun).exec s w).2.2 = u) :
    (∀ {l b}, w.store.get? l = some (.file b) →
      (∀ p, Discovered root v settings s w p → w.find true p ≠ .ok l) →
      u.store.get? l = some (.file b)) ∧
    (∀ {d e}, w.store.get? d = some e →
      (∀ p, Discovered root v settings s w p → w.find false p ≠ .ok d) →
      ∃ e', u.store.get? d = some e' ∧ e'.shape = e.shape) ∧
    (∀ {d}, w.store.get? d = none → u.store.get? d = none) ∧
    (dryRun = true → u.store = w.store) := by
  have hframed := framed_of_run hlog hrun
  refine ⟨hframed.file, fun {d e} hd hout => ?_, hframed.get?_eq_none, fun hdry => ?_⟩
  · have hshape := hframed.entry hout
    rw [hd, Option.map_some] at hshape
    exact Option.map_eq_some_iff.mp hshape
  · subst hdry
    have hsame : w.SameFiles u := by
      rw [← hrun]
      refine moved_of_run lasting_sameFiles id hlog fun _ p _ => ?_
      exact confined_processFile lasting_sameFiles id fun hdry => nomatch hdry
    exact hsame.store

theorem unlogged_loaded (w : World) : Log.Unlogged (loaded .standard) w := by
  refine ⟨fun hstyle => (nomatch hstyle), fun _ {st t u} h => ?_⟩
  obtain rfl : Settings.standard = st := by cases h; rfl
  rfl

/-- A file of the solution under two names, and a file beside it. -/
def besideNotes : Store :=
  ⟨[(["a.js"], .link "b.js"), (["b.js"], .file "/* SOLUTION FILE */\n".toUTF8.toList),
    (["notes.txt"], .file "x\n".toUTF8.toList)], by decide⟩

/-- A run that deletes a file and stops at its second name leaves the file beside it alone. -/
theorem run_frame_beside_notes :
    ((run ⟨.root, []⟩ .problem none false).exec (loaded .standard)
      (plain besideNotes)).2.2.store.get? ["notes.txt"] = some (.file "x\n".toUTF8.toList) := by
  have hlist : ((attached besideNotes).answer (.list ⟨.root, []⟩)).1 =
      .ok ["a.js", "b.js", "notes.txt"] := by decide
  have hflat : ∀ n ∈ ["a.js", "b.js", "notes.txt"],
      ((attached besideNotes).answer (.isDirectory (top n))).1 = .ok false := by decide
  have htaken : Discovery.taken (attached besideNotes) (Discovery.wanted .standard none none)
      ⟨.root, []⟩ ["a.js", "b.js", "notes.txt"] = ["a.js", "b.js"] := by decide
  have hfound := exec_candidates_of_flat hlist (by decide) hflat htaken .problem
  refine (run_frame (unlogged_loaded (plain besideNotes)) rfl).1 rfl ?_
  rintro p ⟨st, paths, t, u, hp, hmem⟩
  rw [hfound] at hp
  cases hp
  have hout : ∀ n ∈ ["a.js", "b.js"],
      (plain besideNotes).find true (top n) ≠ .ok ["notes.txt"] := by decide
  obtain ⟨n, hn, rfl⟩ := List.mem_map.mp hmem
  exact hout n hn

end Run

end Handout
