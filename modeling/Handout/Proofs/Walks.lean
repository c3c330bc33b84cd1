import Handout.Proofs.Calls
import Handout.Proofs.Discovery

/-!
# Walks without a limit

`Discovery.walk` is told how deep it may go. What a walk does when nothing limits it is said here as a
relation, `Discovery.Goes`: the calls that it makes, one after the other, and what it comes to. The
relation has a derivation only where the walk ends, and then it has one only (`Goes.unique`).

Where the directories below a path are no deeper than some number (`Discovery.Shallow`), the walk ends,
and one that may go as deep as that makes the same calls and comes to the same result (`ends_walk`). So
the limit does not show. How many calls there are is told by the depth and by how many entries a
directory can have.

A walk makes no calls but those that it comes to by itself (`Discovery.Due`), which are all on paths
that no ignored name is part of.
-/

namespace Handout

open Act

/-- The failure of a call that a walk makes, where the call fails. -/
def World.failure? (w : World) : Call → Option Failure
  | .list p =>
    match (w.answer (.list p)).1 with
    | .error e => some ⟨p, .list, e.reason⟩
    | .ok _ => none
  | .isDirectory p =>
    match (w.answer (.isDirectory p)).1 with
    | .error e => some ⟨p, .stat, e.reason⟩
    | .ok _ => none
  | _ => none

/-! ## The course of an act -/

namespace Act

variable {α β : Type} {w : World} {x : Act α} {f : α → Act β} {cs ds : List Call} {c : Call}

/-- **An act takes a course** in a world: it makes these calls, and comes to this result or stops for
this failure, with nothing changed. -/
def Takes (w : World) (x : Act α) (cs : List Call) (r : Except Failure α) : Prop :=
  ∀ s, x.calls s w = cs ∧ x.exec s w = (r.mapError .failure, s, w)

theorem takes_pure (w : World) (a : α) : Takes w (pure a) [] (.ok a) :=
  fun _ => ⟨rfl, rfl⟩

theorem takes_throw (w : World) (e : Failure) :
    Takes w (throw (.failure e) : Act α) [] (.error e) :=
  fun _ => ⟨rfl, rfl⟩

/-- A call that only looks comes first in the course of the act that goes on with its answer. -/
theorem Takes.call_bind {g : c.Answer → Act β} {r : Except Failure β} (hc : c.Looks)
    (h : Takes w (g (w.answer c).1) cs r) : Takes w (call c >>= g) (c :: cs) r := by
  intro s
  obtain ⟨hcalls, hexec⟩ := h s
  rw [calls_bind, exec_bind, exec_call, World.answer_of_looks hc]
  exact ⟨congrArg (c :: ·) hcalls, hexec⟩

theorem Takes.bind_ok {a : α} {r : Except Failure β} (hx : Takes w x cs (.ok a))
    (hf : Takes w (f a) ds r) : Takes w (x >>= f) (cs ++ ds) r := by
  intro s
  obtain ⟨hcalls, hexec⟩ := hx s
  obtain ⟨hcalls', hexec'⟩ := hf s
  rw [calls_bind, exec_bind, hcalls, hexec]
  exact ⟨congrArg (cs ++ ·) hcalls', hexec'⟩

theorem Takes.bind_error {e : Failure} (hx : Takes w x cs (.error e)) (f : α → Act β) :
    Takes w (x >>= f) cs (.error e) := by
  intro s
  obtain ⟨hcalls, hexec⟩ := hx s
  rw [calls_bind, exec_bind, hcalls, hexec]
  exact ⟨List.append_nil cs, rfl⟩

/-- A result that is changed at the end changes the course in nothing else. -/
theorem Takes.map {r : Except Failure α} (hx : Takes w x cs r) (g : α → β) :
    Takes w (x >>= fun a => pure (g a)) cs (r.map g) := by
  cases r with
  | error e => exact hx.bind_error _
  | ok a => exact List.append_nil cs ▸ hx.bind_ok (takes_pure w (g a))

end Act

namespace Discovery

variable {w : World} {sel : Selection} {descend : Path → Act (List Path)} {p q root : Path}
  {n : String} {names : List String} {cs ds : List Call} {c : Call} {f : Failure}
  {r : Except Failure (List Path)}

/-! ## The relation -/

/-- A part of a walk. -/
inductive Task
  /-- A directory and what is below it. -/
  | directory (p : Path)
  /-- Entries of a directory, by their names in the order in which they are seen. -/
  | entries (p : Path) (names : List String)
  /-- One entry, which is not ignored, and what is below it. -/
  | entry (q : Path)

/-- The path of a task. -/
def Task.path : Task → Path
  | directory p | entries p _ | entry p => p

/-- **How a part of a walk goes** when nothing limits its depth: the calls that it makes, in their
order, and the paths that it finds or the failure that stops it. -/
inductive Goes (w : World) (sel : Selection) :
    Task → List Call → Except Failure (List Path) → Prop
  | unlisted {p : Path} {f : Failure} (h : w.failure? (.list p) = some f) :
      Goes w sel (.directory p) [.list p] (.error f)
  | listed {p : Path} {names : List String} {cs : List Call} {r : Except Failure (List Path)}
      (h : (w.answer (.list p)).1 = .ok names) (hr : Goes w sel (.entries p (sorted names)) cs r) :
      Goes w sel (.directory p) (.list p :: cs) r
  | done {p : Path} : Goes w sel (.entries p []) [] (.ok [])
  | passed {p : Path} {n : String} {names : List String} {cs : List Call}
      {r : Except Failure (List Path)} (hk : n ∈ sel.ignored)
      (hr : Goes w sel (.entries p names) cs r) : Goes w sel (.entries p (n :: names)) cs r
  | stopped {p : Path} {n : String} {names : List String} {cs : List Call} {f : Failure}
      (hk : n ∉ sel.ignored) (he : Goes w sel (.entry (p.child n)) cs (.error f)) :
      Goes w sel (.entries p (n :: names)) cs (.error f)
  | seen {p : Path} {n : String} {names : List String} {cs ds : List Call} {found : List Path}
      {r : Except Failure (List Path)} (hk : n ∉ sel.ignored)
      (he : Goes w sel (.entry (p.child n)) cs (.ok found))
      (hr : Goes w sel (.entries p names) ds r) :
      Goes w sel (.entries p (n :: names)) (cs ++ ds) (r.map (found ++ ·))
  | unknown {q : Path} {f : Failure} (h : w.failure? (.isDirectory q) = some f) :
      Goes w sel (.entry q) [.isDirectory q] (.error f)
  | inside {q : Path} {cs : List Call} {r : Except Failure (List Path)}
      (h : (w.answer (.isDirectory q)).1 = .ok true) (hr : Goes w sel (.directory q) cs r) :
      Goes w sel (.entry q) (.isDirectory q :: cs) r
  | unwanted {q : Path} (h : (w.answer (.isDirectory q)).1 = .ok false)
      (hs : Path.suffixOf q.name ∉ sel.extensions) : Goes w sel (.entry q) [.isDirectory q] (.ok [])
  | wanted {q : Path} (h : (w.answer (.isDirectory q)).1 = .ok false)
      (hs : Path.suffixOf q.name ∈ sel.extensions) :
      Goes w sel (.entry q) [.isDirectory q, .isFile q]
        (.ok (if (w.answer (.isFile q)).1 then [q] else []))

theorem failure?_list_of_ok (h : (w.answer (.list p)).1 = .ok names) :
    w.failure? (.list p) = none := by
  rw [World.failure?, h]

theorem failure?_isDirectory_of_ok {b : Bool} (h : (w.answer (.isDirectory q)).1 = .ok b) :
    w.failure? (.isDirectory q) = none := by
  rw [World.failure?, h]

/-- **A walk goes in one way only.** -/
theorem Goes.unique {t : Task} {r' : Except Failure (List Path)} (h : Goes w sel t cs r)
    (h' : Goes w sel t ds r') : ds = cs ∧ r' = r := by
  induction h generalizing ds r' with
  | unlisted hf =>
    cases h' with
    | unlisted hf' => exact ⟨rfl, congrArg _ (Option.some.inj (hf'.symm.trans hf))⟩
    | listed hl => rw [failure?_list_of_ok hl] at hf; cases hf
  | listed hl _ ih =>
    cases h' with
    | unlisted hf => rw [failure?_list_of_ok hl] at hf; cases hf
    | listed hl' hr' =>
      obtain rfl := Except.ok.inj (hl.symm.trans hl')
      obtain ⟨rfl, rfl⟩ := ih hr'
      exact ⟨rfl, rfl⟩
  | done => cases h'; exact ⟨rfl, rfl⟩
  | passed hk _ ih =>
    cases h' with
    | passed _ hr' => exact ih hr'
    | stopped hn => exact absurd hk hn
    | seen hn => exact absurd hk hn
  | stopped hn _ ih =>
    cases h' with
    | passed hk => exact absurd hk hn
    | stopped _ he' => exact ih he'
    | seen _ he' => cases (ih he').2
  | seen hn _ _ ihe ihr =>
    cases h' with
    | passed hk => exact absurd hk hn
    | stopped _ he' => cases (ihe he').2
    | seen _ he' hr' =>
      obtain ⟨rfl, hfound⟩ := ihe he'
      cases hfound
      obtain ⟨rfl, rfl⟩ := ihr hr'
      exact ⟨rfl, rfl⟩
  | unknown hf =>
    cases h' with
    | unknown hf' => exact ⟨rfl, congrArg _ (Option.some.inj (hf'.symm.trans hf))⟩
    | inside hd => rw [failure?_isDirectory_of_ok hd] at hf; cases hf
    | unwanted hd => rw [failure?_isDirectory_of_ok hd] at hf; cases hf
    | wanted hd => rw [failure?_isDirectory_of_ok hd] at hf; cases hf
  | inside hd _ ih =>
    cases h' with
    | unknown hf => rw [failure?_isDirectory_of_ok hd] at hf; cases hf
    | inside _ hr' =>
      obtain ⟨rfl, rfl⟩ := ih hr'
      exact ⟨rfl, rfl⟩
    | unwanted hd' => rw [hd] at hd'; cases hd'
    | wanted hd' => rw [hd] at hd'; cases hd'
  | unwanted hd hs =>
    cases h' with
    | unknown hf => rw [failure?_isDirectory_of_ok hd] at hf; cases hf
    | inside hd' => rw [hd] at hd'; cases hd'
    | unwanted => exact ⟨rfl, rfl⟩
    | wanted _ hs' => exact absurd hs' hs
  | wanted hd hs =>
    cases h' with
    | unknown hf => rw [failure?_isDirectory_of_ok hd] at hf; cases hf
    | inside hd' => rw [hd] at hd'; cases hd'
    | unwanted _ hs' => exact absurd hs hs'
    | wanted => exact ⟨rfl, rfl⟩

/-! ## Walks of a depth -/

/-- **A walk from a path is no deeper** than some number: of the directories that it comes to, none has
so many above it. -/
def Shallow (w : World) (sel : Selection) : Nat → Path → Prop
  | 0, _ => False
  | depth + 1, p => ∀ names n, (w.answer (.list p)).1 = .ok names → n ∈ names → n ∉ sel.ignored →
      (w.answer (.isDirectory (p.child n))).1 = .ok true → Shallow w sel depth (p.child n)

/-- A part of a walk ends after at most so many calls, and an act does the same. -/
def Ends (w : World) (sel : Selection) (t : Task) (x : Act (List Path)) (most : Nat) : Prop :=
  ∃ cs r, Goes w sel t cs r ∧ Takes w x cs r ∧ cs.length ≤ most

/-- The most calls of a walk of some depth, where a directory has so many entries at most. -/
def mostCalls (entries : Nat) : Nat → Nat
  | 0 => 0
  | depth + 1 => entries * (mostCalls entries depth + 2) + 1

theorem ends_visit {most : Nat}
    (h : (w.answer (.isDirectory q)).1 = .ok true → Ends w sel (.directory q) (descend q) most) :
    Ends w sel (.entry q) (visit sel descend q) (most + 2) := by
  rcases hd : (w.answer (.isDirectory q)).1 with e | _ | _
  · have hf : w.failure? (.isDirectory q) = some ⟨q, .stat, e.reason⟩ := by rw [World.failure?, hd]
    refine ⟨_, _, .unknown hf, .call_bind trivial ?_, Nat.le_add_left 1 _⟩
    rw [hd]
    exact takes_throw w _
  · by_cases hs : Path.suffixOf q.name ∈ sel.extensions
    · refine ⟨_, _, .wanted hd hs, .call_bind trivial ?_, Nat.le_add_left 2 _⟩
      rw [hd]
      simp only [List.contains_iff_mem.mpr hs, if_true]
      refine .call_bind trivial ?_
      split <;> exact takes_pure w _
    · refine ⟨_, _, .unwanted hd hs, .call_bind trivial ?_, Nat.le_add_left 1 _⟩
      rw [hd]
      simp only [List.contains_iff_mem, hs, if_false]
      exact takes_pure w _
  · obtain ⟨cs, r, hgoes, htakes, hlen⟩ := h hd
    refine ⟨_, _, .inside hd hgoes, .call_bind trivial ?_, ?_⟩
    · rw [hd]
      exact htakes
    · rw [List.length_cons]
      exact Nat.le_succ_of_le (Nat.succ_le_succ hlen)

theorem ends_visitAll {most : Nat}
    (h : ∀ n ∈ names, n ∉ sel.ignored → (w.answer (.isDirectory (p.child n))).1 = .ok true →
      Ends w sel (.directory (p.child n)) (descend (p.child n)) most) :
    Ends w sel (.entries p names) (visitAll sel descend p names) (names.length * (most + 2)) := by
  induction names with
  | nil => exact ⟨_, _, .done, takes_pure w _, Nat.zero_le _⟩
  | cons n names ih =>
    obtain ⟨hn, hrest⟩ := List.forall_mem_cons.mp h
    obtain ⟨ds, r, hgoes, htakes, hlen⟩ := ih hrest
    rw [visitAll, List.length_cons, Nat.succ_mul]
    by_cases hk : n ∈ sel.ignored
    · rw [if_pos (List.contains_iff_mem.mpr hk)]
      exact ⟨ds, r, .passed hk hgoes, htakes, Nat.le_add_right_of_le hlen⟩
    · rw [if_neg (mt List.contains_iff_mem.mp hk)]
      obtain ⟨cs, r', hgoes', htakes', hlen'⟩ := ends_visit (hn hk)
      cases r' with
      | error f =>
        exact ⟨cs, _, .stopped hk hgoes', htakes'.bind_error _, Nat.le_add_left_of_le hlen'⟩
      | ok found =>
        refine ⟨cs ++ ds, _, .seen hk hgoes' hgoes, htakes'.bind_ok (htakes.map _), ?_⟩
        rw [List.length_append, Nat.add_comm]
        exact Nat.add_le_add hlen hlen'

/-- **A walk ends where the directories are no deeper than it may go**, and there the limit does not
show. -/
theorem ends_walk {depth : Nat} (h : Shallow w sel depth p) :
    Ends w sel (.directory p) (walk sel depth p) (mostCalls w.store.entries.length depth) := by
  induction depth generalizing p with
  | zero => exact h.elim
  | succ depth ih =>
    rcases hl : (w.answer (.list p)).1 with e | names
    · have hf : w.failure? (.list p) = some ⟨p, .list, e.reason⟩ := by rw [World.failure?, hl]
      refine ⟨_, _, .unlisted hf, .call_bind trivial ?_, Nat.le_add_left 1 _⟩
      rw [hl]
      exact takes_throw w _
    · have hends : Ends w sel (.entries p (sorted names)) _ _ := ends_visitAll fun n hn hk hd =>
        ih (h names n hl (List.mem_mergeSort.mp hn) hk hd)
      obtain ⟨cs, r, hgoes, htakes, hlen⟩ := hends
      refine ⟨_, _, .listed hl hgoes, .call_bind trivial ?_, ?_⟩
      · rw [hl]
        exact htakes
      · obtain ⟨l, -, -, rfl⟩ := World.list_eq_ok.mp (World.unless?_eq_ok.mp hl).2
        have hmost : (sorted (w.store.names l)).length ≤ w.store.entries.length := by
          rw [sorted, List.length_mergeSort]
          exact List.length_filterMap_le _ _
        rw [List.length_cons, mostCalls]
        exact Nat.succ_le_succ (Nat.le_trans hlen (Nat.mul_le_mul_right _ hmost))

/-- **Walks are shallow where directories are**: when none below a root has more names on the way to
it than some number, a walk that may go deeper than that sees no limit. -/
theorem shallow_of_bound (hnamed : w.store.Named) {most : Nat}
    (h : ∀ ns, (∀ n ∈ ns, Store.IsName n) → w.IsDirectory (root.below ns) → ns.length ≤ most)
    {depth : Nat} {ns : List String} (hns : ∀ n ∈ ns, Store.IsName n)
    (hdir : ns = [] ∨ w.IsDirectory (root.below ns)) (hdepth : most < ns.length + depth) :
    Shallow w sel depth (root.below ns) := by
  induction depth generalizing ns with
  | zero =>
    have hle : ns.length ≤ most := by
      rcases hdir with rfl | hdir
      · exact Nat.zero_le _
      · exact h ns hns hdir
    exact absurd hdepth (Nat.not_lt_of_le hle)
  | succ depth ih =>
    intro names n hl hn _ hd
    obtain ⟨l, -, -, rfl⟩ := World.list_eq_ok.mp (World.unless?_eq_ok.mp hl).2
    rw [← Path.below_concat] at hd ⊢
    refine ih (List.forall_mem_append.mpr ⟨hns, List.forall_mem_singleton.mpr (hnamed l n hn)⟩)
      (.inr (World.holds_dir_eq_true.mp (World.unless?_eq_ok.mp hd).2)) ?_
    rw [List.length_append, List.length_singleton]
    omega

/-- A walk may go as deep as paths can be long. -/
theorem shallow_of_path (hnamed : w.store.Named) {depth : Nat}
    (hdepth : World.mostPathBytes ≤ depth) : Shallow w sel depth root := by
  have hmost : ∀ ns, (∀ n ∈ ns, Store.IsName n) → w.IsDirectory (root.below ns) →
      ns.length ≤ World.mostPathBytes - 1 := by
    rintro ns hns ⟨l, hl, -⟩
    have hlong := root.length_le_text fun n hn => (hns n hn).1
    exact Nat.le_sub_one_of_lt (Nat.lt_of_le_of_lt hlong (World.find_eq_ok.mp hl).1)
  rw [← root.below_nil]
  refine shallow_of_bound hnamed hmost (fun n hn => nomatch hn) (.inl rfl) ?_
  rw [List.length_nil, Nat.zero_add]
  exact Nat.lt_of_lt_of_le (by decide) hdepth

/-- What a walk comes to without a limit, it comes to with one that does not show. -/
theorem Goes.takes (h : Goes w sel (.directory p) cs r) {depth : Nat}
    (hdepth : Shallow w sel depth p) : Takes w (walk sel depth p) cs r := by
  obtain ⟨ds, r', hgoes, htakes, -⟩ := ends_walk hdepth
  obtain ⟨rfl, rfl⟩ := h.unique hgoes
  exact htakes

/-! ## The calls that a walk comes to -/

/-- **A call that a walk comes to**, unless it is stopped before: the listing of the directory and,
of every name in it that is not ignored, whether it is a directory, and then whether it is a file or
what is to be called there. -/
inductive Due (w : World) (sel : Selection) : Task → Call → Prop
  | list (p : Path) : Due w sel (.directory p) (.list p)
  | within {p : Path} {names : List String} {c : Call} (h : (w.answer (.list p)).1 = .ok names)
      (hc : Due w sel (.entries p (sorted names)) c) : Due w sel (.directory p) c
  | among {p : Path} {n : String} {names : List String} {c : Call} (hn : n ∈ names)
      (hk : n ∉ sel.ignored) (hc : Due w sel (.entry (p.child n)) c) : Due w sel (.entries p names) c
  | stat (q : Path) : Due w sel (.entry q) (.isDirectory q)
  | file {q : Path} (h : (w.answer (.isDirectory q)).1 = .ok false)
      (hs : Path.suffixOf q.name ∈ sel.extensions) : Due w sel (.entry q) (.isFile q)
  | inside {q : Path} {c : Call} (h : (w.answer (.isDirectory q)).1 = .ok true)
      (hc : Due w sel (.directory q) c) : Due w sel (.entry q) c

theorem due_cons :
    Due w sel (.entries p (n :: names)) c ↔
      (n ∉ sel.ignored ∧ Due w sel (.entry (p.child n)) c) ∨ Due w sel (.entries p names) c := by
  constructor
  · intro h
    cases h with
    | among hn hk hc =>
      rcases List.mem_cons.mp hn with rfl | hn
      · exact .inl ⟨hk, hc⟩
      · exact .inr (.among hn hk hc)
  · rintro (⟨hk, hc⟩ | h)
    · exact .among (.head _) hk hc
    · cases h with
      | among hn hk hc => exact .among (.tail _ hn) hk hc

/-- **A walk makes no other calls.** -/
theorem Goes.due {t : Task} (h : Goes w sel t cs r) (hc : c ∈ cs) : Due w sel t c := by
  induction h with
  | unlisted => exact List.mem_singleton.mp hc ▸ .list _
  | listed hl _ ih =>
    rcases List.mem_cons.mp hc with rfl | hc
    · exact .list _
    · exact .within hl (ih hc)
  | done => cases hc
  | passed _ _ ih => exact due_cons.mpr (.inr (ih hc))
  | stopped hk _ ih => exact due_cons.mpr (.inl ⟨hk, ih hc⟩)
  | seen hk _ _ ihe ihr =>
    rcases List.mem_append.mp hc with hc | hc
    · exact due_cons.mpr (.inl ⟨hk, ihe hc⟩)
    · exact due_cons.mpr (.inr (ihr hc))
  | unknown => exact List.mem_singleton.mp hc ▸ .stat _
  | inside hd _ ih =>
    rcases List.mem_cons.mp hc with rfl | hc
    · exact .stat _
    · exact .inside hd (ih hc)
  | unwanted => exact List.mem_singleton.mp hc ▸ .stat _
  | wanted hd hs =>
    rcases List.mem_cons.mp hc with rfl | hc
    · exact .stat _
    · exact List.mem_singleton.mp hc ▸ .file hd hs

/-- **The calls of a walk are on paths that no ignored name is part of**, but for the names of the
root itself. -/
theorem Due.exists_below {t : Task} (h : Due w sel t c) :
    ∃ ns, (∀ n ∈ ns, n ∉ sel.ignored) ∧ (c = .list (t.path.below ns) ∨
      c = .isDirectory (t.path.below ns) ∨ c = .isFile (t.path.below ns)) := by
  have hnone : ∀ n ∈ ([] : List String), n ∉ sel.ignored := fun n hn => nomatch hn
  induction h with
  | list p => exact ⟨[], hnone, .inl (congrArg _ p.below_nil.symm)⟩
  | within _ _ ih => exact ih
  | @among p n names c _ hk _ ih =>
    obtain ⟨ns, hns, hc⟩ := ih
    refine ⟨n :: ns, List.forall_mem_cons.mpr ⟨hk, hns⟩, ?_⟩
    rw [Task.path, Path.child_below] at hc
    exact hc
  | stat q => exact ⟨[], hnone, .inr (.inl (congrArg _ q.below_nil.symm))⟩
  | file => exact ⟨[], hnone, .inr (.inr (congrArg _ (Path.below_nil _).symm))⟩
  | inside _ _ ih => exact ih

/-- A walk lists its own directory and what it was told is one. -/
theorem Due.isDirectory {t : Task} (h : Due w sel t (.list q)) :
    t = .directory q ∨ w.IsDirectory q := by
  generalize hc : Call.list q = c at h
  induction h with
  | list p => exact .inl (congrArg _ (Call.list.inj hc).symm)
  | within _ _ ih => exact .inr ((ih hc).resolve_left nofun)
  | among _ _ _ ih => exact .inr ((ih hc).resolve_left nofun)
  | stat => cases hc
  | file => cases hc
  | inside h _ ih =>
    rcases ih hc with hq | hq
    · cases hq
      exact .inr (World.holds_dir_eq_true.mp (World.unless?_eq_ok.mp h).2)
    · exact .inr hq

end Discovery

end Handout
