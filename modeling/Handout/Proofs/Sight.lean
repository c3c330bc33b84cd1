import Handout.Proofs.Logs

/-!
# Places out of sight

Some locations are kept apart from the others, as a directory of settings is and a log file. A path
is clear of them when the walk along it looks at none of them, on the way or at its end
(`Store.Clear`). Worlds that agree everywhere else then give the same answers about it
(`Clear.find`, `Clear.entry`), and whatever it leads to is in sight.

Paths stay clear while the places out of sight are filled in any way, a file in sight is written, or
an entry that is no directory is taken away (`Clear.of_sameOff`, `Clear.handled`).
-/

namespace Handout

namespace Store

variable {H : Location → Prop} {s t : Store} {follow : Bool} {k m : Nat} {l r : Location}
  {n : String} {names rest : List String}

/-- Stores agree off some locations. -/
def AgreeOff (H : Location → Prop) (s t : Store) : Prop :=
  ∀ l, ¬ H l → t.get? l = s.get? l

/-- **Names are clear of some locations**: the walk along them, with so many links to follow, looks at
none of these, and neither the place where it ends nor anything in it is one. -/
inductive Clear (H : Location → Prop) (s : Store) : Nat → Location → List String → Prop
  | here {k : Nat} {l : Location} (hl : ¬ H l) (hin : ∀ n, ¬ H (l ++ [n])) : Clear H s k l []
  | on {k : Nat} {l : Location} {n : String} {rest : List String} (hl : ¬ H l) (hn : ¬ H (l ++ [n]))
      (hmoved : ∀ {m}, s.step l n = .moved m → Clear H s k m rest)
      (hlink : ∀ {target j}, s.step l n = .link target → k = j + 1 →
        Clear H s j (linkStart l target) (linkNames target ++ rest)) :
      Clear H s k l (n :: rest)

theorem step_congr (hl : t.get? l = s.get? l) (hn : t.get? (l ++ [n]) = s.get? (l ++ [n])) :
    t.step l n = s.step l n := by
  simp only [step, hl, hn]

/-- **Stores that agree off some locations** find names alike that are clear of these. -/
theorem Clear.resolveWithin (h : Clear H s k l names) (ht : AgreeOff H s t) :
    t.resolveWithin follow k l names = s.resolveWithin follow k l names := by
  induction h with
  | here => rw [Store.resolveWithin.eq_1 t, Store.resolveWithin.eq_1 s, Store.walk, Store.walk]
  | @on k l n rest hl hn _ _ ihmoved ihlink =>
    have hstep : t.step l n = s.step l n := step_congr (ht l hl) (ht _ hn)
    cases hs : s.step l n with
    | moved m => rw [resolveWithin_move hs, resolveWithin_move (hstep.trans hs), ihmoved hs]
    | link target =>
      rw [Store.resolveWithin.eq_1 t, Store.resolveWithin.eq_1 s, walk_cons, walk_cons, hstep, hs]
      by_cases hlast : rest = [] ∧ follow = false
      · simp only [if_pos hlast]
      · simp only [if_neg hlast]
        cases k with
        | zero => rfl
        | succ j => exact ihlink hs rfl
    | missing =>
      rw [Store.resolveWithin.eq_1 t, Store.resolveWithin.eq_1 s, walk_cons, walk_cons, hstep, hs]
      by_cases hlast : rest = []
      · simp only [if_pos hlast]
      · simp only [if_neg hlast]
    | failed e =>
      rw [Store.resolveWithin.eq_1 t, Store.resolveWithin.eq_1 s, walk_cons, walk_cons, hstep, hs]

/-- **What clear names lead to is in sight**, with all that is in it. -/
theorem Clear.not_hidden (h : Clear H s k l names) (hr : s.Leads follow m l names r) (hm : m ≤ k) :
    ¬ H r ∧ (s.get? r = some .dir → ∀ n, ¬ H (r ++ [n])) := by
  induction hr generalizing k with
  | here l =>
    cases h with
    | here hl hin => exact ⟨hl, fun _ => hin⟩
  | move hs _ ih =>
    cases h with
    | on _ _ hmoved _ => exact ih (hmoved hs) hm
  | pass hs _ _ ih =>
    cases h with
    | on _ _ _ hlink =>
      obtain ⟨j, rfl⟩ := Nat.exists_eq_add_of_le' hm
      exact ih (hlink hs rfl) (Nat.le_add_left _ j)
  | stay hs _ =>
    cases h with
    | on _ hn _ _ => exact ⟨hn, fun hdir => by rw [get?_of_step_link hs] at hdir; cases hdir⟩
  | vacant hs =>
    cases h with
    | on _ hn _ _ => exact ⟨hn, fun hdir => by rw [get?_of_step_missing hs] at hdir; cases hdir⟩

/-- Names stay clear in a store whose steps from place to place in sight are steps of the first one. -/
theorem Clear.of_step (h : Clear H s k l names)
    (hstep : ∀ {l n r}, ¬ H l → ¬ H (l ++ [n]) → t.step l n = r → r ≠ .missing →
      (∀ e, r ≠ .failed e) → s.step l n = r) :
    Clear H t k l names := by
  induction h with
  | here hl hin => exact .here hl hin
  | on hl hn _ _ ihmoved ihlink =>
    refine .on hl hn (fun {m} hs => ?_) fun {target j} hs hk => ?_
    · exact ihmoved (hstep hl hn hs (by simp) (by simp))
    · exact ihlink (hstep hl hn hs (by simp) (by simp)) hk

/-- **Without links below a location**, names below it are clear of what is not. -/
theorem clear_of_linkless {base : Location} (hout : ∀ l, base <+: l → ¬ H l)
    (hlink : ∀ l target, base <+: l → s.get? l ≠ some (.link target)) (hl : base <+: l)
    (hnames : ∀ n ∈ names, IsName n) : Clear H s k l names := by
  have hbelow : ∀ {l n}, base <+: l → base <+: l ++ [n] := fun h => h.trans (List.prefix_append _ _)
  induction names generalizing l with
  | nil => exact .here (hout l hl) fun n => hout _ (hbelow hl)
  | cons n rest ih =>
    obtain ⟨hn, hrest⟩ := List.forall_mem_cons.mp hnames
    refine .on (hout l hl) (hout _ (hbelow hl)) (fun {q} hs => ?_) fun {target j} hs _ => ?_
    · obtain rfl := eq_of_step_moved hs hn
      exact ih (hbelow hl) hrest
    · exact absurd (get?_of_step_link hs) (hlink _ _ (hbelow hl))

end Store

namespace World

open Store (Clear mostLinks)

variable {H : Location → Prop} {u v w : World} {p : Path} {l : Location} {follow : Bool}

/-- Worlds that agree off some locations, seen from the same place, in which the same calls fail. -/
structure SameOff (H : Location → Prop) (w v : World) : Prop where
  directory : v.directory = w.directory
  faults : v.faults = w.faults
  store : w.store.AgreeOff H v.store

theorem SameOff.symm (h : w.SameOff H v) : v.SameOff H w :=
  ⟨h.directory.symm, h.faults.symm, fun l hl => (h.store l hl).symm⟩

theorem SameOff.trans (h : u.SameOff H v) (k : v.SameOff H w) : u.SameOff H w :=
  ⟨k.directory.trans h.directory, k.faults.trans h.faults,
    fun l hl => (k.store l hl).trans (h.store l hl)⟩

/-- **A path is clear of some locations.** -/
def ClearOf (w : World) (H : Location → Prop) (p : Path) : Prop :=
  Clear H w.store mostLinks (w.origin p) p.parts

theorem SameOff.put (h : w.SameOff H v) (hl : l ≠ []) (e : Entry) :
    (w.put l e).SameOff H (v.put l e) := by
  refine ⟨h.directory, h.faults, fun k hk => ?_⟩
  rw [World.put, World.put, Store.get?_put _ _ _ _ hl, Store.get?_put _ _ _ _ hl, h.store k hk]

theorem SameOff.erase (h : w.SameOff H v) (hl : l ≠ []) : (w.erase l).SameOff H (v.erase l) := by
  refine ⟨h.directory, h.faults, fun k hk => ?_⟩
  rw [World.erase, World.erase, Store.get?_erase _ _ _ hl, Store.get?_erase _ _ _ hl, h.store k hk]

/-! ## What is said of clear paths -/

theorem SameOff.origin (h : w.SameOff H v) (p : Path) : v.origin p = w.origin p := by
  rw [World.origin, World.origin, h.directory]

theorem ClearOf.find (hp : w.ClearOf H p) (h : w.SameOff H v) (follow : Bool) :
    v.find follow p = w.find follow p := by
  have hresolve : v.store.resolve follow (w.origin p) p.parts =
      w.store.resolve follow (w.origin p) p.parts := Clear.resolveWithin hp h.store
  rw [World.find, World.find, ← World.origin, ← World.origin, h.origin, hresolve]

/-- **A clear path leads to a place in sight**, and so does everything in it. -/
theorem ClearOf.not_hidden (hp : w.ClearOf H p) (hl : w.find follow p = .ok l) :
    ¬ H l ∧ (w.store.get? l = some .dir → ∀ n, ¬ H (l ++ [n])) := by
  obtain ⟨-, k, hk, hleads⟩ := find_eq_ok.mp hl
  exact Clear.not_hidden hp hleads hk

theorem ClearOf.entry (hp : w.ClearOf H p) (h : w.SameOff H v) : v.entry p = w.entry p := by
  rw [World.entry, World.entry, hp.find h]
  cases hl : w.find true p with
  | error e => rfl
  | ok l =>
    simp only [bind, Except.bind]
    rw [h.store l (hp.not_hidden hl).1]

theorem ClearOf.holds (hp : w.ClearOf H p) (h : w.SameOff H v) (q : Entry → Bool) :
    v.holds p q = w.holds p q := by
  rw [World.holds, World.holds, hp.entry h]

theorem ClearOf.read (hp : w.ClearOf H p) (h : w.SameOff H v) : v.read p = w.read p := by
  rw [World.read, World.read, hp.entry h]

theorem ClearOf.target (hp : w.ClearOf H p) (h : w.SameOff H v) : v.target p = w.target p := by
  rw [World.target, World.target, hp.find h]
  cases hl : w.find true p with
  | error e => rfl
  | ok l =>
    simp only [bind, Except.bind]
    rw [h.store l (hp.not_hidden hl).1]

theorem ClearOf.doomed (hp : w.ClearOf H p) (h : w.SameOff H v) : v.doomed p = w.doomed p := by
  rw [World.doomed, World.doomed, hp.find h]
  cases hl : w.find false p with
  | error e => rfl
  | ok l =>
    simp only [bind, Except.bind]
    rw [h.store l (hp.not_hidden hl).1]

theorem SameOff.unless? {α : Type} (h : w.SameOff H v) (c : FileCall) (p : Path)
    (x : Except OsError α) : v.unless? c p x = w.unless? c p x := by
  rw [World.unless?, World.unless?, fault?_congr h.directory h.faults]

/-- **What is listed under a clear path** is refused alike, or has the same names in whatever order,
all of them of entries in sight. -/
theorem ClearOf.answer_list (hp : w.ClearOf H p) (h : w.SameOff H v) :
    (∃ e, (w.answer (.list p)).1 = .error e ∧ (v.answer (.list p)).1 = .error e) ∨
      ∃ l, (∀ n, ¬ H (l ++ [n])) ∧ (w.answer (.list p)).1 = .ok (w.store.names l) ∧
        (v.answer (.list p)).1 = .ok (v.store.names l) ∧
        (w.store.names l).Perm (v.store.names l) := by
  change (∃ e, w.unless? .list p (w.list p) = .error e ∧ v.unless? .list p (v.list p) = .error e) ∨
    ∃ l, _ ∧ w.unless? .list p (w.list p) = _ ∧ v.unless? .list p (v.list p) = _ ∧ _
  rw [h.unless?, unless?, unless?, World.list, World.list, hp.entry h]
  cases w.fault? .list p with
  | some e => exact .inl ⟨e, rfl, rfl⟩
  | none =>
    rcases hl : w.entry p with e | ⟨l, e⟩
    · exact .inl ⟨e, rfl, rfl⟩
    · cases e with
      | file b => exact .inl ⟨_, rfl, rfl⟩
      | link target => exact .inl ⟨_, rfl, rfl⟩
      | dir =>
        obtain ⟨hfind, hdir⟩ := entry_eq_ok.mp hl
        have hin := (hp.not_hidden hfind).2 hdir
        refine .inr ⟨l, hin, rfl, rfl, ?_⟩
        refine (List.perm_ext_iff_of_nodup (w.store.nodup_names l)
          (v.store.nodup_names l)).mpr fun n => ?_
        rw [Store.mem_names, Store.mem_names, h.store _ (hin n)]

/-! ## Paths that stay clear -/

theorem ClearOf.of_sameOff (hp : w.ClearOf H p) (h : w.SameOff H v) : v.ClearOf H p := by
  rw [ClearOf, h.origin]
  refine Clear.of_step hp fun {l n r} hl hn hr _ _ => ?_
  rw [← hr, Store.step_congr (h.store l hl) (h.store _ hn)]

/-- **Handling a file** keeps paths clear. -/
theorem ClearOf.handled (hp : w.ClearOf H p) (h : w.Handled l v) : v.ClearOf H p := by
  have horigin : v.origin p = w.origin p := by rw [World.origin, World.origin, h.fixed.1]
  rw [ClearOf, horigin]
  cases h with
  | written hl x =>
    refine Clear.of_step hp fun {l n r} _ _ hr _ _ => ?_
    rw [← hr]
    exact (Store.alike_put hl x).step l n
  | deleted _ hd hdir _ =>
    exact Clear.of_step hp fun _ _ hr hne hfail =>
      Store.step_of_erase (ne_nil_of_entry hd hdir) hr hne hfail

/-- Records are written out of sight, when the log file is. -/
theorem Noted.sameOff (h : w.Noted v) (hlog : ∀ l, w.log = some l → H l) : w.SameOff H v :=
  ⟨h.fixed.1, h.fixed.2.1, fun l hl => h.get? fun heq => hl (hlog l heq)⟩

end World

end Handout
