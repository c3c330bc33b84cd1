import Handout.World
import Handout.Proofs.Resolution

/-!
# The files that paths lead to

`World.Holds` is the view of a world that processing has: a path leads to a file, and the file holds
some bytes. What a call gives on such a path is told by it, and what a write and a deletion leave of
it: a write into one file, and the deletion of an entry that goes to one file, leave every path that
leads to another file as it was (`Holds.put_ne`, `Holds.erase_ne`).

**What it does not establish.** Two paths may lead to one file; nothing is said about the second one
when the entry of the first is deleted.
-/

namespace Handout

open Store (GoesTo mostLinks)

namespace World

variable {u v w : World} {p q : Path} {l m d : Location} {b c : List UInt8}

/-- The location from which a path is walked. -/
def origin (w : World) (p : Path) : Location :=
  if p.isAbsolute then [] else w.directory

/-- A path is found where its names lead to, if its text is not too long. -/
theorem find_eq_ok {follow : Bool} :
    w.find follow p = .ok l ↔
      p.text.utf8ByteSize < mostPathBytes ∧
        ∃ k ≤ mostLinks, w.store.Leads follow k (w.origin p) p.parts l := by
  rw [find, ← Store.resolve_eq_ok, origin]
  split
  · next h =>
    simp only [reduceCtorEq, false_iff, not_and]
    intro hlt
    exact absurd h (Nat.not_le_of_lt hlt)
  · next h => exact (and_iff_right (Nat.lt_of_not_le h)).symm

/-- **A path leads to a file**, which holds some bytes. -/
structure Holds (w : World) (p : Path) (l : Location) (b : List UInt8) : Prop where
  found : w.find true p = .ok l
  file : w.store.get? l = some (.file b)

/-- A path leads to a file. -/
def IsFile (w : World) (p : Path) : Prop :=
  ∃ l b, w.Holds p l b

/-- A path leads to a directory. -/
def IsDirectory (w : World) (p : Path) : Prop :=
  ∃ l, w.find true p = .ok l ∧ w.store.get? l = some .dir

/-- No path leads to both a file and a directory. -/
theorem IsFile.not_isDirectory (h : w.IsFile p) : ¬ w.IsDirectory p := by
  obtain ⟨l, b, hl⟩ := h
  rintro ⟨m, hm, hdir⟩
  obtain rfl := Except.ok.inj (hl.found.symm.trans hm)
  rw [hl.file] at hdir
  cases hdir

theorem ne_nil_of_entry {e : Entry} (hd : w.store.get? d = some e) (hdir : e ≠ .dir) : d ≠ [] := by
  rintro rfl
  exact hdir (Option.some.inj hd).symm

theorem ne_nil_of_file (h : w.store.get? l = some (.file b)) : l ≠ [] :=
  ne_nil_of_entry h (by simp)

/-! ## Calls that look -/

theorem entry_eq_ok {e : Entry} :
    w.entry p = .ok (l, e) ↔ w.find true p = .ok l ∧ w.store.get? l = some e := by
  rw [entry]
  cases hf : w.find true p with
  | error e => simp [bind, Except.bind]
  | ok m =>
    simp only [bind, Except.bind, Except.ok.injEq]
    cases hm : w.store.get? m with
    | none =>
      simp only [throw, throwThe, MonadExceptOf.throw, reduceCtorEq, false_iff, not_and]
      rintro rfl
      simp [hm]
    | some d =>
      simp only [pure, Except.pure, Except.ok.injEq, Prod.mk.injEq]
      constructor
      · rintro ⟨rfl, rfl⟩
        exact ⟨rfl, hm⟩
      · rintro ⟨rfl, he⟩
        exact ⟨rfl, Option.some.inj (hm.symm.trans he)⟩

/-- A path is as asked when what it leads to is. -/
theorem holds_eq_true {q : Entry → Bool} :
    w.holds p q = .ok true ↔
      ∃ l e, w.find true p = .ok l ∧ w.store.get? l = some e ∧ q e = true := by
  simp only [← and_assoc, ← entry_eq_ok]
  rw [holds]
  rcases w.entry p with e | ⟨l, e⟩
  · simp only [reduceCtorEq, false_and, exists_false, iff_false]
    split <;> simp
  · constructor
    · intro h
      exact ⟨l, e, rfl, Except.ok.inj h⟩
    · rintro ⟨m, d, hm, hq⟩
      cases hm
      exact congrArg Except.ok hq

theorem holds_dir_eq_true : w.holds p (· == .dir) = .ok true ↔ w.IsDirectory p := by
  simp [holds_eq_true, IsDirectory]

/-- **The names in a directory** that a path leads to. -/
theorem list_eq_ok {names : List String} :
    w.list p = .ok names ↔
      ∃ l, w.find true p = .ok l ∧ w.store.get? l = some .dir ∧ names = w.store.names l := by
  simp only [← and_assoc, ← entry_eq_ok]
  rw [list]
  rcases w.entry p with e | ⟨l, e⟩
  · simp [bind, Except.bind]
  · cases e <;> simp [bind, Except.bind, pure, Except.pure, eq_comm]

/-- The call for a file says whether a path leads to one. -/
theorem answer_isFile : (w.answer (.isFile p)).1 = true ↔ w.IsFile p := by
  have hask : ∀ x : Except OsError Bool, x.toOption.getD false = true ↔ x = .ok true := by
    rintro (e | b) <;> simp [Except.toOption]
  refine (hask _).trans (holds_eq_true.trans ⟨?_, ?_⟩)
  · rintro ⟨l, e, hl, he, hq⟩
    cases e with
    | file b => exact ⟨l, b, hl, he⟩
    | dir => cases hq
    | link t => cases hq
  · rintro ⟨l, b, hl⟩
    exact ⟨l, _, hl.found, hl.file, rfl⟩

theorem unless?_eq_ok {α : Type} {c : FileCall} {x : Except OsError α} {a : α} :
    w.unless? c p x = .ok a ↔ w.fault? c p = none ∧ x = .ok a := by
  rw [unless?]
  cases w.fault? c p <;> simp

/-! ## Calls on a file -/

/-- **Reading a path** gives the bytes of the file that it leads to. -/
theorem read_eq_ok : w.read p = .ok b ↔ ∃ l, w.Holds p l b := by
  constructor
  · intro h
    rw [read, entry] at h
    cases hf : w.find true p with
    | error e => rw [hf] at h; cases h
    | ok l =>
      rw [hf] at h
      cases hl : w.store.get? l with
      | none => simp [bind, Except.bind, hl] at h
      | some e =>
        cases e with
        | file x => simp [bind, Except.bind, pure, Except.pure, hl] at h; exact ⟨l, hf, h ▸ hl⟩
        | dir => simp [bind, Except.bind, pure, Except.pure, hl] at h
        | link _ => simp [bind, Except.bind, pure, Except.pure, hl] at h
  · rintro ⟨l, hf, hl⟩
    simp [read, entry, hf, hl, bind, Except.bind, pure, Except.pure]

theorem Holds.target_eq (h : w.Holds p l b) : w.target p = .ok l := by
  simp [target, h.found, h.file, bind, Except.bind, pure, Except.pure]

theorem get?_of_target (h : w.target p = .ok l) : w.store.get? l ≠ some .dir := by
  intro hl
  rw [target] at h
  cases hf : w.find true p with
  | error e => rw [hf] at h; cases h
  | ok m =>
    simp only [hf, bind, Except.bind] at h
    split at h
    · cases h
    · next hm => cases h; exact hm hl

theorem get?_of_vacant (h : w.vacant p = .ok l) : w.store.get? l = none := by
  rw [vacant] at h
  cases hf : w.find false p with
  | error e => rw [hf] at h; cases h
  | ok m =>
    simp only [hf, bind, Except.bind] at h
    split at h
    · cases h
    · next hm =>
      cases h
      exact Option.not_isSome_iff_eq_none.mp hm

theorem ne_nil_of_vacant (h : w.vacant p = .ok l) : l ≠ [] := by
  rintro rfl
  cases get?_of_vacant h

/-- A deletion takes an entry away that goes to the file that the path leads to. -/
theorem Holds.exists_doomed (h : w.Holds p l b) :
    ∃ d e, w.find false p = .ok d ∧ w.store.get? d = some e ∧ e ≠ .dir ∧
      w.doomed p = .ok d ∧ w.store.GoesTo d l := by
  obtain ⟨htext, k, hk, hl⟩ := find_eq_ok.mp h.found
  obtain ⟨d, ⟨m, hm, hd⟩, hg⟩ := hl.exists_goesTo h.file
  have hfind : w.find false p = .ok d := find_eq_ok.mpr ⟨htext, m, Nat.le_trans hm hk, hd⟩
  -- the entry is the file itself or a link to it, so it is no directory
  have hentry : ∃ e, w.store.get? d = some e ∧ e ≠ .dir := by
    rcases hg with rfl | ⟨target, _, ht, _⟩
    · exact ⟨_, h.file, by simp⟩
    · exact ⟨_, ht, by simp⟩
  obtain ⟨e, he, hdir⟩ := hentry
  refine ⟨d, e, hfind, he, hdir, ?_, hg⟩
  rw [doomed, hfind]
  cases e with
  | dir => exact absurd rfl hdir
  | file x => simp [he, bind, Except.bind, pure, Except.pure]
  | link x => simp [he, bind, Except.bind, pure, Except.pure]

/-! ## After a write and after a deletion -/

theorem find_put (hl : w.store.get? l = some (.file b)) (x : List UInt8) (follow : Bool) (q : Path) :
    (w.put l (.file x)).find follow q = w.find follow q := by
  rw [find, find, put]
  simp only [(Store.alike_put hl x).resolve]

theorem Holds.put (h : w.Holds p l b) (x : List UInt8) : (w.put l (.file x)).Holds p l x := by
  refine ⟨(find_put h.file x true p).trans h.found, ?_⟩
  rw [World.put, Store.get?_put _ _ _ _ (ne_nil_of_file h.file), if_pos rfl]

theorem Holds.put_ne (h : w.Holds q m c) (hl : w.store.get? l = some (.file b)) (hne : l ≠ m)
    (x : List UInt8) : (w.put l (.file x)).Holds q m c := by
  refine ⟨(find_put hl x true q).trans h.found, ?_⟩
  rw [World.put, Store.get?_put _ _ _ _ (ne_nil_of_file hl), if_neg hne.symm, h.file]

/-- What is there without an entry is another one. -/
theorem get?_of_erase {e : Entry} (hd : d ≠ []) (h : (w.erase d).store.get? m = some e) :
    m ≠ d ∧ w.store.get? m = some e := by
  rw [World.erase, Store.get?_erase _ _ _ hd] at h
  split at h
  · cases h
  · next hm => exact ⟨hm, h⟩

theorem get?_erase_of_file {e : Entry} (hm : w.store.get? m = some (.file c))
    (hd : w.store.get? d = some e) (hdir : e ≠ .dir) (hg : w.store.GoesTo d l) (hne : l ≠ m) :
    (w.erase d).store.get? m = some (.file c) := by
  rw [World.erase, Store.get?_erase _ _ _ (ne_nil_of_entry hd hdir), if_neg (hg.ne_of_file hm hne), hm]

/-- **The deletion of an entry that goes to one file leaves the others as they are.** -/
theorem Holds.erase_ne {e : Entry} (h : w.Holds q m c) (hl : w.store.get? l = some (.file b))
    (hd : w.store.get? d = some e) (hdir : e ≠ .dir) (hg : w.store.GoesTo d l) (hne : l ≠ m) :
    (w.erase d).Holds q m c := by
  obtain ⟨htext, k, hk, hm⟩ := find_eq_ok.mp h.found
  have hleads := hm.erase h.file (ne_nil_of_entry hd hdir) hd hdir hg hl hne
  exact ⟨find_eq_ok.mpr ⟨htext, k, hk, hleads⟩, get?_erase_of_file h.file hd hdir hg hne⟩

/-! ## One file handled -/

/-- **A world in which one file was handled**: it was written, or an entry that goes to it was
deleted. -/
inductive Handled (w : World) (l : Location) : World → Prop
  | written {b : List UInt8} (h : w.store.get? l = some (.file b)) (x : List UInt8) :
      Handled w l (w.put l (.file x))
  | deleted {b : List UInt8} {d : Location} {e : Entry} (h : w.store.get? l = some (.file b))
      (hd : w.store.get? d = some e) (hdir : e ≠ .dir) (hg : w.store.GoesTo d l) :
      Handled w l (w.erase d)

/-- **Handling one file leaves the others as they are.** -/
theorem Handled.holds (h : w.Handled l v) (hq : w.Holds q m c) (hne : l ≠ m) : v.Holds q m c := by
  cases h with
  | written hl x => exact hq.put_ne hl hne x
  | deleted hl hd hdir hg => exact hq.erase_ne hl hd hdir hg hne

/-- Handling a file puts nothing where nothing is. -/
theorem Handled.get?_eq_none (h : w.Handled l v) (hd : w.store.get? d = none) :
    v.store.get? d = none := by
  cases h with
  | written hl x =>
    have hne : d ≠ l := by
      rintro rfl
      rw [hl] at hd
      cases hd
    exact (Store.get?_put_ne _ hne _).trans hd
  | deleted _ hk hdir _ =>
    exact (Store.get?_erase _ _ _ (ne_nil_of_entry hk hdir)).trans (by rw [hd, ite_self])

/-- Entries that paths name once a file is handled are those that they named before. -/
theorem Handled.find_eq {follow : Bool} {e : Entry} (h : w.Handled l v)
    (hf : v.find follow q = .ok d) (hd : v.store.get? d = some e) : w.find follow q = .ok d := by
  cases h with
  | written hl x => exact (find_put hl x follow q).symm.trans hf
  | deleted _ hk hdir _ =>
    obtain ⟨htext, k, hk', hleads⟩ := find_eq_ok.mp hf
    exact find_eq_ok.mpr ⟨htext, k, hk', hleads.of_erase hd (ne_nil_of_entry hk hdir)⟩

theorem Handled.get?_of_file (h : w.Handled l v) (hm : w.store.get? m = some (.file c))
    (hne : l ≠ m) : v.store.get? m = some (.file c) := by
  cases h with
  | written hl x => exact (Store.get?_put_ne _ hne.symm _).trans hm
  | deleted _ hd hdir hg => exact get?_erase_of_file hm hd hdir hg hne

theorem Handled.fixed (h : w.Handled l v) : v.directory = w.directory ∧ v.faults = w.faults := by
  cases h with
  | written _ _ => exact ⟨rfl, rfl⟩
  | deleted _ _ _ _ => exact ⟨rfl, rfl⟩

/-! ## Worlds with the same files -/

theorem fault?_congr (hd : v.directory = w.directory) (hf : v.faults = w.faults) (c : FileCall)
    (p : Path) : v.fault? c p = w.fault? c p := by
  rw [fault?, fault?, here, here, hd, hf]

/-- Worlds with the same files, seen from the same place, in which the same calls fail. -/
structure SameFiles (w v : World) : Prop where
  store : v.store = w.store
  directory : v.directory = w.directory
  faults : v.faults = w.faults

theorem SameFiles.refl (w : World) : w.SameFiles w :=
  ⟨rfl, rfl, rfl⟩

theorem SameFiles.trans (h : u.SameFiles v) (k : v.SameFiles w) : u.SameFiles w :=
  ⟨k.store.trans h.store, k.directory.trans h.directory, k.faults.trans h.faults⟩

theorem SameFiles.symm (h : w.SameFiles v) : v.SameFiles w :=
  ⟨h.store.symm, h.directory.symm, h.faults.symm⟩

theorem SameFiles.find (h : w.SameFiles v) (follow : Bool) (p : Path) :
    v.find follow p = w.find follow p := by
  simp only [World.find, h.store, h.directory]

theorem SameFiles.fault? (h : w.SameFiles v) (c : FileCall) (p : Path) :
    v.fault? c p = w.fault? c p :=
  fault?_congr h.directory h.faults c p

theorem SameFiles.read (h : w.SameFiles v) (p : Path) : v.read p = w.read p := by
  simp only [World.read, World.entry, h.find, h.store]

theorem SameFiles.holds (h : w.SameFiles v) (hp : w.Holds p l b) : v.Holds p l b :=
  ⟨(h.find true p).trans hp.found, h.store ▸ hp.file⟩

end World

end Handout
