import Handout.Log.Setup
import Handout.Proofs.Acts
import Handout.Proofs.Files

/-!
# What logging does to the world

Setting logging up makes a log file, where one is asked for, and the directories on the way to it,
and changes nothing else in a store (`exec_configure`). Both stand where the path of the log file leads
to: a directory is one that a path above it names and where nothing was (`World.Furnished`), and the
file is at the location that the path itself leads to then (`World.Readied`). An event is a record or
nothing (`exec_event`).

`World.Noted` is what events do to a world. Where records are not sent to a file, it is nothing that
a later call could see (`Noted.sameFiles`).
-/

namespace Handout

namespace Path

variable {p q : Path}

/-- **A path above another one**: the other one without some parts at its end. -/
def Above (q p : Path) : Prop :=
  q.anchor = p.anchor ∧ q.parts <+: p.parts.dropLast

theorem above_parent (p : Path) : p.parent.Above p :=
  ⟨rfl, List.prefix_rfl⟩

theorem Above.parent (h : q.Above p) : q.parent.Above p :=
  ⟨h.1, (List.dropLast_prefix q.parts).trans h.2⟩

end Path

namespace World

variable {u v w : World} {p : Path} {l m : Location} {b : List UInt8}

/-- **Directories made on the way to a path**: each one where a path above that one names it, and where
nothing was. -/
inductive Furnished (p : Path) (w : World) : World → Prop
  | same : Furnished p w w
  | made {v : World} {q : Path} {l : Location} (h : Furnished p w v) (hq : q.Above p)
      (hl : v.vacant q = .ok l) : Furnished p w (v.put l .dir)

theorem Furnished.trans (h : u.Furnished p v) (k : v.Furnished p w) : u.Furnished p w := by
  induction k with
  | same => exact h
  | made _ hq hl ih => exact ih.made hq hl

theorem Furnished.fixed (h : w.Furnished p v) : v.directory = w.directory ∧ v.faults = w.faults := by
  induction h with
  | same => exact ⟨rfl, rfl⟩
  | made _ _ _ ih => exact ih

/-- Nothing is changed but that directories are where nothing was. -/
theorem Furnished.entry (h : w.Furnished p v) (l : Location) :
    v.store.get? l = w.store.get? l ∨ w.store.get? l = none ∧ v.store.get? l = some .dir := by
  induction h with
  | same => exact .inl rfl
  | @made v q m _ _ hm ih =>
    have hnone := get?_of_vacant hm
    have hput := Store.get?_put v.store m l .dir (ne_nil_of_vacant hm)
    by_cases hl : l = m
    · subst hl
      rw [if_pos rfl] at hput
      refine .inr ⟨?_, hput⟩
      rcases ih with hsame | ⟨-, hdir⟩
      · exact hsame ▸ hnone
      · rw [hnone] at hdir
        cases hdir
    · rw [if_neg hl] at hput
      rw [put, hput]
      exact ih

/-- **A world made ready for logging** to a file, if any: directories are made on the way to the file,
and records are sent to where its path then leads. What is in it stays, and where no file was an empty
one is made. -/
inductive Readied (w : World) : Option Path → World → Prop
  | unlogged : Readied w none { w with attached := true, log := none }
  | logged {p : Path} {v : World} {l : Location} (h : w.Furnished p v)
      (hl : v.target (v.here.join p).collapse = .ok l) : Readied w (some p) (v.attachFile l)

variable {file : Option Path}

theorem Readied.fixed (h : w.Readied file v) : v.directory = w.directory ∧ v.faults = w.faults := by
  cases h with
  | unlogged => exact ⟨rfl, rfl⟩
  | logged h _ => exact h.fixed

/-- Without a log file nothing is made. -/
theorem Readied.store (h : w.Readied file v) (hl : v.log = none) : v.store = w.store := by
  cases h with
  | unlogged => rfl
  | logged => cases hl

/-- A file that records are sent to keeps what is in it, and is empty where no file was. -/
theorem get?_attachFile (hl : w.store.get? l ≠ some .dir) (m : Location) :
    (w.attachFile l).store.get? m = w.store.get? m ∨
      m = l ∧ (w.attachFile l).store.get? m = some (.file []) ∧
        ∀ b, w.store.get? m ≠ some (.file b) := by
  have hroot : l ≠ [] := by
    rintro rfl
    exact hl rfl
  have hput : (w.attachFile l).store.get? m = _ := Store.get?_put w.store l m _ hroot
  rw [hput]
  split
  · next hm =>
    subst hm
    rw [content]
    split
    · next b hb => exact .inl hb.symm
    · next hb => exact .inr ⟨rfl, rfl, hb⟩
  · exact .inl rfl

/-- **The entries of a world made ready for logging** are those of before, but for directories where
nothing was and for the log file, which is empty where no file was. -/
theorem Readied.entry (h : w.Readied file v) (l : Location) :
    v.store.get? l = w.store.get? l ∨
      w.store.get? l = none ∧ v.store.get? l = some .dir ∨
      v.log = some l ∧ v.store.get? l = some (.file []) ∧ ∀ b, w.store.get? l ≠ some (.file b) := by
  cases h with
  | unlogged => exact .inl rfl
  | @logged p u m h hm =>
    rcases get?_attachFile (get?_of_target hm) l with hsame | ⟨rfl, hempty, hnone⟩
    · rw [hsame]
      exact (h.entry l).imp_right .inl
    · refine .inr (.inr ⟨rfl, hempty, fun b hb => ?_⟩)
      rcases h.entry l with hl | ⟨hl, -⟩
      · exact hnone b (hl.trans hb)
      · rw [hl] at hb
        cases hb

/-! ## Records -/

/-- **A world in which records were written since.** -/
inductive Noted (w : World) : World → Prop
  | same : Noted w w
  | record {v : World} (h : Noted w v) (r : Record) : Noted w (v.record r)

theorem Noted.trans (h : u.Noted v) (k : v.Noted w) : u.Noted w := by
  induction k with
  | same => exact h
  | record _ r ih => exact ih.record r

/-- What a record adds to a log file. -/
def recordBytes (w : World) (r : Record) : List UInt8 :=
  (r.line w.time ++ "\n").toUTF8.toList

theorem toList_loop_ne_nil (bytes : ByteArray) (i : Nat) {r : List UInt8} (h : r ≠ []) :
    ByteArray.toList.loop bytes i r ≠ [] := by
  fun_induction ByteArray.toList.loop bytes i r with
  | case1 i r hi ih => exact ih (List.cons_ne_nil _ _)
  | case2 i r hi => simpa using h

/-- A record adds something: its line ends with a line feed. -/
theorem recordBytes_ne_nil (w : World) (r : Record) : w.recordBytes r ≠ [] := by
  have hsize : 0 < (r.line w.time ++ "\n").toUTF8.size := by
    have hfeed : "\n".utf8ByteSize = 1 := by decide
    simp [hfeed]
  rw [recordBytes, ByteArray.toList, ByteArray.toList.loop, if_pos hsize]
  exact toList_loop_ne_nil _ 1 (List.cons_ne_nil _ _)

/-- A record goes to the error output, and to the end of the log file where there is one. -/
theorem record_eq (w : World) (r : Record) :
    ∃ n, w.record r = { w with notices := n } ∧ w.log = none ∨
      ∃ l, w.record r =
          { w with notices := n, store := w.store.put l (.file (w.content l ++ w.recordBytes r)) } ∧
        w.log = some l := by
  obtain ⟨store, directory, environment, faults, time, attached, log, output, notices⟩ := w
  cases log with
  | none => cases attached <;> exact ⟨_, .inl ⟨rfl, rfl⟩⟩
  | some l => cases attached <;> exact ⟨_, .inr ⟨l, rfl, rfl⟩⟩

theorem record_log (hlog : w.log = some l) (hl : w.store.get? l = some (.file b)) (r : Record) :
    (w.record r).store.get? l = some (.file (b ++ w.recordBytes r)) := by
  obtain ⟨n, ⟨_, hm⟩ | ⟨m, hr, hm⟩⟩ := record_eq w r
  · rw [hlog] at hm
    cases hm
  · obtain rfl := Option.some.inj (hlog.symm.trans hm)
    rw [hr]
    refine (Store.get?_put _ _ _ _ (ne_nil_of_file hl)).trans ?_
    rw [if_pos rfl, content, hl]

theorem Noted.fixed (h : w.Noted v) :
    v.directory = w.directory ∧ v.faults = w.faults ∧ v.log = w.log := by
  induction h with
  | same => exact ⟨rfl, rfl, rfl⟩
  | @record v _ r ih =>
    obtain ⟨n, ⟨hr, _⟩ | ⟨_, hr, _⟩⟩ := record_eq v r
    · rw [hr]; exact ih
    · rw [hr]; exact ih

/-- Records change the log file only. -/
theorem Noted.get? (h : w.Noted v) (hl : w.log ≠ some l) : v.store.get? l = w.store.get? l := by
  induction h with
  | same => rfl
  | @record v h r ih =>
    obtain ⟨n, ⟨hr, _⟩ | ⟨m, hr, hm⟩⟩ := record_eq v r
    · rw [hr]; exact ih
    · have hne : l ≠ m := by
        rintro rfl
        exact hl (h.fixed.2.2 ▸ hm)
      rw [hr]
      exact (Store.get?_put_ne _ hne _).trans ih

theorem Noted.recordBytes (h : w.Noted v) (r : Record) : v.recordBytes r = w.recordBytes r := by
  induction h with
  | same => rfl
  | @record v _ r' ih =>
    obtain ⟨n, ⟨hr, _⟩ | ⟨_, hr, _⟩⟩ := record_eq v r'
    · rw [hr]; exact ih
    · rw [hr]; exact ih

/-- **Records are written at the end of the log file**, and in no other file. -/
theorem Noted.exists_file (h : w.Noted v) (hl : w.store.get? l = some (.file b)) :
    ∃ records : List Record,
      v.store.get? l = some (.file (b ++ records.flatMap w.recordBytes)) ∧
      (w.log ≠ some l → records = []) := by
  by_cases hlog : w.log = some l
  · refine (?_ : ∃ records : List Record, v.store.get? l =
      some (.file (b ++ records.flatMap w.recordBytes))).imp fun _ h => ⟨h, fun hne => absurd hlog hne⟩
    induction h with
    | same => exact ⟨[], hl.trans (by rw [List.flatMap_nil, List.append_nil])⟩
    | @record v h r ih =>
      obtain ⟨records, hfile⟩ := ih
      refine ⟨records ++ [r], ?_⟩
      rw [record_log (h.fixed.2.2.trans hlog) hfile, h.recordBytes, List.append_assoc,
        List.flatMap_append, List.flatMap_singleton]
  · exact ⟨[], by rw [h.get? hlog, hl, List.flatMap_nil, List.append_nil], fun _ => rfl⟩

/-! ### Where the log file is another one -/

/-- The file that records are sent to is there. -/
def LogThere (w : World) : Prop :=
  ∀ l, w.log = some l → ∃ b, w.store.get? l = some (.file b)

/-- **A path is apart from the log**: the log file, if there is one, is a file that the path does not
lead to. -/
structure Apart (w : World) (p : Path) : Prop where
  there : w.LogThere
  other : ∀ l, w.log = some l → w.find true p ≠ .ok l

theorem apart_of_none (hl : w.log = none) (p : Path) : w.Apart p where
  there _ h := by rw [hl] at h; cases h
  other _ h := by rw [hl] at h; cases h

theorem Noted.logThere (h : w.Noted v) (hl : w.LogThere) : v.LogThere := by
  intro l hv
  obtain ⟨b, hb⟩ := hl l (h.fixed.2.2 ▸ hv)
  obtain ⟨_, hfile, _⟩ := h.exists_file hb
  exact ⟨_, hfile⟩

/-- Records change no entry but for what the log file holds. -/
theorem Noted.alike (h : w.Noted v) (hl : w.LogThere) : w.store.Alike v.store := by
  induction h with
  | same => exact .refl _
  | @record v h r ih =>
    obtain ⟨n, ⟨hr, _⟩ | ⟨m, hr, hm⟩⟩ := record_eq v r
    · rw [hr]; exact ih
    · obtain ⟨b, hb⟩ := h.logThere hl m hm
      rw [hr]
      exact ih.trans (Store.alike_put hb _)

theorem Noted.find (h : w.Noted v) (hl : w.LogThere) (follow : Bool) (p : Path) :
    v.find follow p = w.find follow p := by
  simp only [World.find, h.fixed.1, (h.alike hl).resolve]

theorem Noted.get?_eq_none (h : w.Noted v) (hl : w.LogThere) (hn : w.store.get? l = none) :
    v.store.get? l = none := by
  rw [h.get? fun hlog => ?_, hn]
  obtain ⟨b, hb⟩ := hl l hlog
  rw [hn] at hb
  cases hb

theorem Noted.holds (h : w.Noted v) (hl : w.LogThere) (hp : w.Holds p l b) (hne : w.log ≠ some l) :
    v.Holds p l b :=
  ⟨(h.find hl true p).trans hp.found, (h.get? hne).trans hp.file⟩

theorem Noted.read (h : w.Noted v) (ha : w.Apart p) : v.read p = w.read p := by
  simp only [World.read, World.entry, h.find ha.there]
  cases hf : w.find true p with
  | error e => rfl
  | ok l =>
    have hl : v.store.get? l = w.store.get? l := h.get? fun hlog => ha.other l hlog hf
    simp only [bind, Except.bind, hl]

theorem Handled.log_eq (h : w.Handled l v) (hl : w.LogThere) (hne : w.log ≠ some l) :
    v.log = w.log := by
  cases h with
  | written _ _ => rfl
  | @deleted _ d _ _ hd hdir hg =>
    cases hlog : w.log with
    | none => rw [erase, hlog]; rfl
    | some m =>
      obtain ⟨b, hb⟩ := hl m hlog
      have hother : m ≠ d := hg.ne_of_file hb fun heq => hne (heq ▸ hlog)
      rw [erase, hlog]
      exact if_pos (decide_eq_true hother)

theorem Handled.logThere (h : w.Handled l v) (hl : w.LogThere) (hne : w.log ≠ some l) :
    v.LogThere := by
  intro m hm
  rw [h.log_eq hl hne] at hm
  obtain ⟨b, hb⟩ := hl m hm
  exact ⟨b, h.get?_of_file hb fun heq => hne (heq ▸ hm)⟩

/-- **A world in which one file was handled**, with records written since. -/
structure Passed (w : World) (l : Location) (v : World) : Prop where
  directory : v.directory = w.directory
  faults : v.faults = w.faults
  log : v.log = w.log
  there : v.LogThere
  /-- The other files are as they were. -/
  holds : ∀ {q m c}, w.Holds q m c → l ≠ m → w.log ≠ some m → v.Holds q m c
  /-- There is nothing where nothing was. -/
  get?_eq_none : ∀ {d}, w.store.get? d = none → v.store.get? d = none
  /-- Paths that name an entry named it before. -/
  find_eq : ∀ {follow q d e}, v.find follow q = .ok d → v.store.get? d = some e →
    w.find follow q = .ok d

theorem Handled.passed (h : w.Handled l v) (hl : w.LogThere) (hne : w.log ≠ some l)
    (hn : v.Noted u) : w.Passed l u := by
  have hlog := h.log_eq hl hne
  have hthere := h.logThere hl hne
  refine ⟨hn.fixed.1.trans h.fixed.1, hn.fixed.2.1.trans h.fixed.2, hn.fixed.2.2.trans hlog,
    hn.logThere hthere, fun {q m c} hq hm hlogm => ?_, fun {d} hd => ?_, fun {_ q d e} hf hd => ?_⟩
  · exact hn.holds hthere (h.holds hq hm) (hlog ▸ hlogm)
  · exact hn.get?_eq_none hthere (h.get?_eq_none hd)
  · rw [hn.find hthere] at hf
    cases hv : v.store.get? d with
    -- an entry that was taken away would have to be there again
    | none => rw [hn.get?_eq_none hthere hv] at hd; cases hd
    | some e' => exact h.find_eq hf hv

/-- Where there is no log file, records change nothing that a call could see. -/
theorem Noted.sameFiles (h : w.Noted v) (hl : w.log = none) : w.SameFiles v := by
  refine ⟨?_, h.fixed.1, h.fixed.2.1⟩
  induction h with
  | same => rfl
  | @record v h r ih =>
    obtain ⟨n, ⟨hr, _⟩ | ⟨m, _, hm⟩⟩ := record_eq v r
    · rw [hr]; exact ih
    · rw [h.fixed.2.2, hl] at hm
      cases hm

end World

theorem Act.lasting_furnished (p : Path) : Act.Lasting (World.Furnished p) :=
  ⟨fun _ => .same, World.Furnished.trans⟩

/-- A call by which a directory above a path is made where it is missing. -/
def Call.Furnishes (p : Path) : Call → Prop
  | .makeDirectory q => q.Above p
  | .isDirectory _ => True
  | _ => False

/-- A call by which records are sent elsewhere, with the directories that this needs. -/
def Call.Attaches : Call → Prop
  | .makeDirectory _ | .isDirectory _ | .directory | .attach _ => True
  | _ => False

theorem Call.Furnishes.attaches {p : Path} {c : Call} (h : c.Furnishes p) : c.Attaches := by
  cases c with
  | makeDirectory | isDirectory => trivial
  | _ => exact h.elim

namespace Log

open Act World

/-! ## Set-up -/

theorem furnished_answer {p : Path} {c : Call} (h : c.Furnishes p) (w : World) :
    w.Furnished p (w.answer c).2 := by
  cases c with
  | makeDirectory q =>
    change w.Furnished p (w.change (w.vacant q) fun l => w.put l .dir).2
    cases hq : w.vacant q with
    | error e => exact .same
    | ok l => exact .made .same h hq
  | isDirectory q => exact .same
  | _ => exact h.elim

theorem calling_acceptDirectory (p q : Path) (e : OsError) :
    Calling (Call.Furnishes p) Stop.Foreign (acceptDirectory q e) := by
  refine .bind (.call trivial) fun r => ?_
  match r with
  | .error e => exact .throw fun _ h => nomatch h
  | .ok false => exact .throw fun _ h => nomatch h
  | .ok true => exact .pure _

/-- The directories that are made for one above a path are above the path, too. -/
theorem calling_makeDirectories {p q : Path} (h : q.Above p) (above : Nat) :
    Calling (Call.Furnishes p) Stop.Foreign (makeDirectories above q) := by
  induction above generalizing q with
  | zero =>
    rw [makeDirectories]
    refine .bind (.call h) fun r => ?_
    match r with
    | .ok () => exact .pure _
    | .error e =>
      cases e with
      | absent => exact .throw fun _ h => nomatch h
      | _ => exact calling_acceptDirectory p q _
  | succ n ih =>
    rw [makeDirectories]
    refine .bind (.call h) fun r => ?_
    match r with
    | .ok () => exact .pure _
    | .error e =>
      cases e with
      | absent =>
        -- for want of the directory above, that one is made and this one tried again
        refine .bind (ih h.parent) fun _ => .bind (.call h) fun r => ?_
        match r with
        | .ok () => exact .pure _
        | .error e => exact calling_acceptDirectory p q e
      | _ => exact calling_acceptDirectory p q _

theorem furnished_of_exec_makeDirectories {p q : Path} (h : q.Above p) {above : Nat}
    {r : Except Stop Unit} {s t : Session} {w v : World}
    (hx : (makeDirectories above q).exec s w = (r, t, v)) : w.Furnished p v :=
  ((calling_makeDirectories h above).confined (lasting_furnished p) fun _ hc =>
    furnished_answer hc).moved hx

/-- **Records are sent to where a path leads.** -/
theorem exec_attach {p : Path} {s t : Session} {w v : World}
    (h : (attach (some p)).exec s w = (.ok (), t, v)) :
    ∃ l, w.target p = .ok l ∧ v = w.attachFile l := by
  obtain ⟨r, s', w', hcall, hrest⟩ := exec_bind_eq_ok.mp h
  rw [exec_call] at hcall
  change ((.ok (w.change (w.target p) w.attachFile).1, s,
    (w.change (w.target p) w.attachFile).2) : Except Stop _ × Session × World) = _ at hcall
  cases hl : w.target p with
  | error e =>
    rw [hl] at hcall
    cases hcall
    cases hrest
  | ok l =>
    rw [hl] at hcall
    cases hcall
    cases hrest
    exact ⟨l, rfl, rfl⟩

theorem exec_attachFile {p : Path} {s t : Session} {w v : World}
    (h : (attachFile p).exec s w = (.ok (), t, v)) : w.Readied (some p) v := by
  obtain ⟨_, s₁, w₁, hdirs, h⟩ := exec_bind_eq_ok.mp h
  obtain ⟨cwd, s₂, w₂, hcall, h⟩ := exec_bind_eq_ok.mp h
  cases hcall
  obtain ⟨l, hl, rfl⟩ := exec_attach h
  exact .logged (furnished_of_exec_makeDirectories p.above_parent hdirs) hl

/-- The path that a file name says; an empty name is none. -/
def fileOf : Option String → Option Path
  | none => none
  | some f => if f = "" then none else some (Path.ofText f)

theorem exec_attachNamed {name : Option String} {s t : Session} {w v : World}
    (h : (attachNamed name).exec s w = (.ok (), t, v)) : w.Readied (fileOf name) v := by
  cases name with
  | none =>
    cases h
    exact .unlogged
  | some f =>
    rw [attachNamed] at h
    rw [fileOf]
    split at h
    · next hf =>
      rw [if_pos hf]
      cases h
      exact .unlogged
    · next hf =>
      rw [if_neg hf]
      exact exec_attachFile h

theorem calling_attachNamed (name : Option String) :
    Calling Call.Attaches Stop.Foreign (attachNamed name) := by
  have hattach : ∀ file, Calling Call.Attaches Stop.Foreign (attach file) := by
    intro file
    refine .bind (.call trivial) fun r => ?_
    match r with
    | .ok () => exact .pure _
    | .error e => exact .throw fun _ h => nomatch h
  cases name with
  | none => exact hattach none
  | some f =>
    rw [attachNamed]
    split
    · exact hattach none
    · refine .bind ((calling_makeDirectories (Path.ofText f).above_parent _).mono
        (fun _ => Call.Furnishes.attaches) fun _ h => h) fun _ => ?_
      exact .bind (.call trivial) fun _ => hattach _

/-- Once logging was set up, settings are known. -/
theorem exists_settings_of_ensure {level : Option String} {s t : Session} {w v : World}
    (hs : s.logging.style = none) (h : (ensure level).exec s w = (.ok (), t, v)) :
    ∃ st, t.settings = some st := by
  rw [ensure, exec_bind, exec_get] at h
  simp only [hs, Option.isNone_none, if_true] at h
  rw [configure] at h
  obtain ⟨st, s₁, w₁, hload, h⟩ := exec_bind_eq_ok.mp h
  obtain ⟨_, s₂, w₂, hattach, hlevel⟩ := exec_bind_eq_ok.mp h
  have hsteady := (calling_attachNamed (none.or st.general.logFile)).steady s₁ w₁
  rw [hattach] at hsteady
  have hknown : s₂.settings = some st :=
    (congrArg Session.settings hsteady).trans (Config.settings_of_exec_settings hload)
  split at hlevel
  · cases hlevel
  · cases hlevel
    exact ⟨st, hknown⟩

/-- **Setting logging up** makes the world ready for it and changes nothing else: the file is the one
that is named or, without a name, that of the settings. -/
theorem exec_configure {level file : Option String} {structured : Option Bool} {s t : Session}
    {w v : World} (h : (configure level file structured).exec s w = (.ok (), t, v)) :
    ∃ st s₁, Config.settings.exec s w = (.ok st, s₁, w) ∧
      w.Readied (fileOf (file.or st.general.logFile)) v := by
  obtain ⟨st, s₁, w₁, hload, h⟩ := exec_bind_eq_ok.mp h
  obtain rfl : w = w₁ := Config.confined_settings.moved hload
  obtain ⟨_, s₂, w₂, hattach, h⟩ := exec_bind_eq_ok.mp h
  refine ⟨st, s₁, hload, ?_⟩
  split at h
  · cases h
  · cases h
    exact exec_attachNamed hattach

/-- **What setting logging up makes of a world** in a session: the same one where it is set up, and
else one that is made ready for the log file of the settings. -/
inductive Readies (s : Session) (w : World) : World → Prop
  | before (h : s.logging.style.isSome) : Readies s w w
  | now {st : Settings} {t : Session} {v : World} (hstyle : s.logging.style = none)
      (hload : Config.settings.exec s w = (.ok st, t, w))
      (h : w.Readied (fileOf st.general.logFile) v) : Readies s w v

theorem Readies.fixed {s : Session} {w v : World} (h : Readies s w v) :
    v.directory = w.directory ∧ v.faults = w.faults := by
  cases h with
  | before => exact ⟨rfl, rfl⟩
  | now _ _ h => exact h.fixed

theorem Readies.sameFiles {s : Session} {w v : World} (h : Readies s w v) (hl : v.log = none) :
    w.SameFiles v := by
  cases h with
  | before => exact .refl w
  | now _ _ h => exact ⟨h.store hl, h.fixed.1, h.fixed.2⟩

theorem exec_ensure {level : Option String} {s t : Session} {w v : World}
    (h : (ensure level).exec s w = (.ok (), t, v)) : Readies s w v := by
  rw [ensure, exec_bind, exec_get] at h
  simp only at h
  split at h
  · next hstyle =>
    obtain ⟨st, s₁, hload, hready⟩ := exec_configure h
    exact .now (Option.isNone_iff_eq_none.mp hstyle) hload hready
  · next hstyle =>
    cases h
    exact .before (by simpa [Option.isSome_iff_ne_none] using hstyle)

/-- **No log file is asked for**: where logging is set up, records go to no file, and elsewhere the
settings name none. -/
structure Unlogged (s : Session) (w : World) : Prop where
  log : s.logging.style.isSome → w.log = none
  settings : s.logging.style = none → ∀ {st t u}, Config.settings.exec s w = (.ok st, t, u) →
    st.general.logFile.getD "" = ""

theorem exec_attachNamed_of_empty {name : Option String} (h : name.getD "" = "") (s : Session)
    (w : World) :
    (attachNamed name).exec s w = (.ok (), s, { w with attached := true, log := none }) := by
  cases name with
  | none => rfl
  | some f =>
    obtain rfl : f = "" := h
    rfl

/-- Logging cannot be set up where the settings cannot be loaded. -/
theorem exec_ensure_of_unloaded {level : Option String} {e : Stop} {s t : Session} {w v : World}
    (hs : s.logging.style = none) (hload : Config.settings.exec s w = (.error e, t, v)) :
    (ensure level).exec s w = (.error e, t, v) := by
  rw [ensure, exec_bind, exec_get]
  simp only [hs, Option.isNone_none, if_true]
  rw [configure]
  exact exec_bind_eq_error.mpr (.inl hload)

/-- **Setting logging up without a log file**, once the settings can be loaded. -/
theorem exec_ensure_of_settings {st : Settings} {threshold : Threshold} {s t : Session} {w : World}
    (hs : s.logging.style = none) (hload : Config.settings.exec s w = (.ok st, t, w))
    (hfile : st.general.logFile.getD "" = "")
    (hlevel : Threshold.ofName st.general.logLevel = .ok threshold) :
    ∃ style, (ensure none).exec s w =
      (.ok (), { t with logging := ⟨some style, threshold, t.logging.fixed⟩ },
        { w with attached := true, log := none }) := by
  refine ⟨if st.general.jsonLogs then .structured else .console, ?_⟩
  rw [ensure, exec_bind, exec_get]
  simp only [hs, Option.isNone_none, if_true]
  rw [configure]
  refine exec_bind_eq_ok.mpr ⟨st, t, w, hload, ?_⟩
  refine exec_bind_eq_ok.mpr ⟨(), t, _, exec_attachNamed_of_empty hfile t w, ?_⟩
  rw [Option.getD_none, hlevel]
  rfl

/-- Where no log file is asked for, setting logging up changes no file. -/
theorem Unlogged.exec_ensure {level : Option String} {r : Except Stop Unit} {s t : Session}
    {w u : World} (h : Unlogged s w) (hx : (ensure level).exec s w = (r, t, u)) :
    w.SameFiles u ∧ (r = .ok () → u.log = none) := by
  rw [ensure, exec_bind, exec_get] at hx
  simp only at hx
  split at hx
  · next hstyle =>
    rw [configure, exec_bind] at hx
    rcases hload : Config.settings.exec s w with ⟨e | st, s₁, w₁⟩
    · obtain rfl : w = w₁ := Config.confined_settings.moved hload
      rw [hload] at hx
      cases hx
      exact ⟨.refl w, fun h => nomatch h⟩
    · obtain rfl : w = w₁ := Config.confined_settings.moved hload
      have hnone := h.settings (Option.isNone_iff_eq_none.mp hstyle) hload
      rw [hload] at hx
      simp only [Option.none_or] at hx
      rw [exec_bind, exec_attachNamed_of_empty hnone] at hx
      simp only at hx
      split at hx <;> cases hx <;> exact ⟨⟨rfl, rfl, rfl⟩, fun _ => rfl⟩
  · next hstyle =>
    cases hx
    refine ⟨.refl w, fun _ => h.log ?_⟩
    simpa [Option.isSome_iff_ne_none] using hstyle

/-- Setting logging up stops for no failure that the program reports. -/
theorem confined_ensure (level : Option String) :
    Confined (fun _ _ => True) Stop.Foreign (ensure level) := by
  have hR := lasting_true
  refine .bind hR (confined_get hR) fun s => ?_
  split
  · refine .bind hR (Config.confined_settings.mono (fun _ _ _ => trivial) fun _ h => h) fun _ => ?_
    refine .bind hR ((calling_attachNamed _).confined hR fun _ _ _ => trivial) fun _ => ?_
    split
    · exact confined_throw hR fun _ h => nomatch h
    · exact confined_modify hR _
  · exact confined_pure hR _

/-! ## Events -/

/-- **What an event does**: its logger has a style from then on, and it is recorded if it is grave
enough; before any set-up it is dropped. -/
theorem exec_event_eq (logger : String) (severity : Severity) (name : String) (fields : Fields)
    (s : Session) (w : World) :
    (event logger severity name fields).exec s w =
      match styleOf? s.logging logger with
      | none => (.ok (), s, w)
      | some style =>
        (.ok (), { s with logging := fix s.logging logger style },
          if s.logging.threshold ≤ severity.number then
            w.record ⟨style, severity, logger, name, Fields.merge s.context fields⟩
          else w) := by
  rw [event, exec_bind, exec_get]
  simp only
  cases styleOf? s.logging logger with
  | none => rfl
  | some style =>
    simp only [exec_bind, exec_set]
    split <;> rfl

/-- An event always comes to an end, and is a record or nothing. -/
theorem exec_event (logger : String) (severity : Severity) (name : String) (fields : Fields)
    (s : Session) (w : World) :
    ∃ t v, (event logger severity name fields).exec s w = (.ok (), t, v) ∧ w.Noted v := by
  rw [exec_event_eq]
  split
  · exact ⟨s, w, rfl, .same⟩
  · refine ⟨_, _, rfl, ?_⟩
    split
    · exact World.Noted.same.record _
    · exact .same

theorem confined_event {E : Stop → Prop} (logger : String) (severity : Severity) (name : String)
    (fields : Fields) : Confined World.Noted E (event logger severity name fields) := by
  intro s w
  obtain ⟨t, v, hexec, hnoted⟩ := exec_event logger severity name fields s w
  rw [hexec]
  exact ⟨hnoted, fun _ h => nomatch h⟩

end Log

end Handout
