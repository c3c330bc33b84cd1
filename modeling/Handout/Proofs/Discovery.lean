import Handout.Proofs.Phases

/-!
# What a discovery finds

A walk that comes to its end has found the candidates below its root, and has found them in the
order of their names (`enumerates_walk`). What a candidate is does not depend on the walk: it is
told by what the paths on the way lead to (`Candidate`).

A walk comes to its end when every directory that it comes to can be listed and every entry that it
asks about can be asked about (`exec_walk_of_undisturbed`). The measure is the length of paths: a
name makes a path longer, and what is too long cannot be listed.

**What it does not establish.** Nothing is said of which call stops a walk that is disturbed.
-/

namespace Handout

open Act

/-- The path of names below a path. -/
def Path.below (p : Path) (names : List String) : Path :=
  ⟨p.anchor, p.parts ++ names⟩

theorem Path.below_nil (p : Path) : p.below [] = p := by
  rw [below, List.append_nil]

theorem Path.child_below (p : Path) (n : String) (names : List String) :
    (p.child n).below names = p.below (n :: names) := by
  rw [below, below, child, List.append_assoc, List.singleton_append]

theorem Path.below_concat (p : Path) (names : List String) (n : String) :
    p.below (names ++ [n]) = (p.below names).child n := by
  rw [below, below, child, List.append_assoc]

theorem Path.name_child (p : Path) (n : String) : (p.child n).name = n := by
  rw [name, child, List.getLast?_concat, Option.getD_some]

theorem Path.below_injective (p : Path) : Function.Injective p.below := by
  intro ns ms h
  exact List.append_cancel_left (congrArg Path.parts h)

/-! ## Lengths of paths -/

/-- Names that are not empty make the text of a path at least as long as there are names. -/
theorem length_le_intercalate (before : List String) {names : List String}
    (h : ∀ n ∈ names, n ≠ "") :
    names.length ≤ ("/".intercalate (before ++ names)).utf8ByteSize := by
  have hpos : ∀ n ∈ names, 0 < n.utf8ByteSize := by
    intro n hn
    exact Nat.pos_of_ne_zero (mt String.utf8ByteSize_eq_zero_iff.mp (h n hn))
  induction before with
  | cons x before ih =>
    by_cases hnil : before ++ names = []
    · rw [(List.append_eq_nil_iff.mp hnil).2]
      exact Nat.zero_le _
    · rw [List.cons_append, String.intercalate_cons_of_ne_nil hnil, String.utf8ByteSize_append]
      exact Nat.le_trans ih (Nat.le_add_left _ _)
  | nil =>
    rw [List.nil_append]
    clear h
    induction names with
    | nil => exact Nat.zero_le _
    | cons n r ih =>
      obtain ⟨hn, hr⟩ := List.forall_mem_cons.mp hpos
      have hrest := ih hr
      cases r with
      | nil => simpa [Nat.succ_le_iff] using hn
      | cons m r =>
        have hslash : "/".utf8ByteSize = 1 := by decide
        rw [String.intercalate_cons_cons, String.utf8ByteSize_append, String.utf8ByteSize_append,
          hslash, List.length_cons]
        omega

theorem Path.length_le_text (p : Path) {names : List String} (h : ∀ n ∈ names, n ≠ "") :
    names.length ≤ (p.below names).text.utf8ByteSize := by
  rw [text]
  split
  · next hp =>
    rw [(List.append_eq_nil_iff.mp hp.2).2]
    exact Nat.zero_le _
  · rw [String.utf8ByteSize_append]
    exact Nat.le_trans (length_le_intercalate p.parts h) (Nat.le_add_left _ _)

namespace World

variable {w : World} {p q : Path} {l : Location} {n : String}

/-- **A name that leads from a directory to an entry** is listed in it. -/
theorem mem_names_of_child {r : Location} {e : Entry} (hl : w.find true p = .ok l)
    (hr : w.find true (p.child n) = .ok r) (he : w.store.get? r = some e) (hn : Store.IsName n) :
    n ∈ w.store.names l := by
  obtain ⟨_, i, _, hp⟩ := find_eq_ok.mp hl
  obtain ⟨_, k, _, hc⟩ := find_eq_ok.mp hr
  obtain ⟨m, j, j', -, hm, hlast⟩ := Store.Leads.exists_append hc
  obtain rfl := hm.unique hp
  exact hlast.mem_names he hn

end World

namespace Discovery

variable {w u : World} {s t : Session} {sel : Selection} {p q root : Path} {found : List Path}
  {descend : Path → Act (List Path)} {n : String} {ns ms : List String} {names : List String}

/-! ## Candidates -/

/-- **A candidate below a root**: the names are names of entries, none of them ignored; the names on
the way lead to directories and all of them together to a file, and the last one has a suffix that
is wanted. -/
structure Candidate (w : World) (sel : Selection) (root : Path) (ns : List String) : Prop where
  names : ∀ n ∈ ns, Store.IsName n
  kept : ∀ n ∈ ns, n ∉ sel.ignored
  directories : ∀ ms, ms <+: ns → ms ≠ [] → ms ≠ ns → w.IsDirectory (root.below ms)
  file : w.IsFile (root.below ns)
  suffix : ∃ n, ns.getLast? = some n ∧ Path.suffixOf n ∈ sel.extensions

/-- A file that is wanted at an entry or below it, by the names that follow. -/
inductive Under (w : World) (sel : Selection) : Path → List String → Prop
  | here {q : Path} (hf : w.IsFile q) (hs : Path.suffixOf q.name ∈ sel.extensions) :
      Under w sel q []
  | inside {q : Path} {n : String} {ns : List String} (hd : w.IsDirectory q) (hn : Store.IsName n)
      (hk : n ∉ sel.ignored) (h : Under w sel (q.child n) ns) : Under w sel q (n :: ns)

theorem under_cons :
    Under w sel q (n :: ns) ↔
      w.IsDirectory q ∧ Store.IsName n ∧ n ∉ sel.ignored ∧ Under w sel (q.child n) ns := by
  constructor
  · intro h
    cases h with
    | inside hd hn hk h => exact ⟨hd, hn, hk, h⟩
  · rintro ⟨hd, hn, hk, h⟩
    exact .inside hd hn hk h

/-- What is under an entry, said of all the names at once. -/
theorem under_iff :
    Under w sel q ns ↔
      (∀ n ∈ ns, Store.IsName n ∧ n ∉ sel.ignored) ∧
      (∀ ms, ms <+: ns → ms ≠ ns → w.IsDirectory (q.below ms)) ∧
      w.IsFile (q.below ns) ∧ Path.suffixOf (q.below ns).name ∈ sel.extensions := by
  induction ns generalizing q with
  | nil =>
    rw [Path.below_nil]
    constructor
    · intro h
      cases h with
      | here hf hs =>
        refine ⟨(fun n hn => nomatch hn), fun ms hms hne => ?_, hf, hs⟩
        exact absurd (List.prefix_nil.mp hms) hne
    · rintro ⟨_, _, hf, hs⟩
      exact .here hf hs
  | cons n ns ih =>
    rw [under_cons, ih, Path.child_below]
    constructor
    · rintro ⟨hd, hn, hk, hall, hdirs, hf, hs⟩
      refine ⟨List.forall_mem_cons.mpr ⟨⟨hn, hk⟩, hall⟩, fun ms hms hne => ?_, hf, hs⟩
      rcases List.prefix_cons_iff.mp hms with rfl | ⟨rest, rfl, hrest⟩
      · rw [Path.below_nil]
        exact hd
      · rw [← Path.child_below]
        exact hdirs rest hrest fun heq => hne (heq ▸ rfl)
    · rintro ⟨hall, hdirs, hf, hs⟩
      obtain ⟨⟨hn, hk⟩, hall⟩ := List.forall_mem_cons.mp hall
      refine ⟨?_, hn, hk, hall, fun ms hms hne => ?_, hf, hs⟩
      · have h := hdirs [] List.nil_prefix (List.cons_ne_nil n ns).symm
        rwa [Path.below_nil] at h
      · rw [Path.child_below]
        exact hdirs (n :: ms) (List.cons_prefix_cons.mpr ⟨rfl, hms⟩)
          fun heq => hne (List.cons.inj heq).2

theorem Under.exists_entry (h : Under w sel q ns) :
    ∃ l e, w.find true q = .ok l ∧ w.store.get? l = some e := by
  cases h with
  | here hf _ =>
    obtain ⟨l, b, hl⟩ := hf
    exact ⟨l, _, hl.found, hl.file⟩
  | inside hd _ _ _ =>
    obtain ⟨l, hl, hdir⟩ := hd
    exact ⟨l, _, hl, hdir⟩

theorem candidate_iff_under (hroot : w.IsDirectory root) :
    Candidate w sel root ns ↔ ns ≠ [] ∧ Under w sel root ns := by
  have hname : ∀ {n}, ns.getLast? = some n → (root.below ns).name = n := by
    intro n hn
    rw [Path.name, Path.below, List.getLast?_append, hn]
    rfl
  rw [under_iff]
  constructor
  · rintro ⟨hnames, hkept, hdirs, hfile, n, hn, hs⟩
    refine ⟨?_, fun m hm => ⟨hnames m hm, hkept m hm⟩, fun ms hms hne => ?_, hfile,
      (hname hn).symm ▸ hs⟩
    · rintro rfl
      cases hn
    by_cases hnil : ms = []
    · rw [hnil, Path.below_nil]
      exact hroot
    · exact hdirs ms hms hnil hne
  · rintro ⟨hne, hall, hdirs, hfile, hs⟩
    obtain ⟨n, hn⟩ := Option.isSome_iff_exists.mp (List.getLast?_isSome.mpr hne)
    exact ⟨fun m hm => (hall m hm).1, fun m hm => (hall m hm).2, fun ms hms _ => hdirs ms hms,
      hfile, n, hn, hname hn ▸ hs⟩

/-! ## The calls of a walk -/

/-- **What is done at an entry** is told by whether it is a directory. -/
theorem exec_visit (sel : Selection) (descend : Path → Act (List Path)) (q : Path) (s : Session)
    (w : World) :
    (visit sel descend q).exec s w =
      match (w.answer (.isDirectory q)).1 with
      | .error e => (.error (.failure ⟨q, .stat, e.reason⟩), s, w)
      | .ok true => (descend q).exec s w
      | .ok false =>
        (.ok (if sel.extensions.contains (Path.suffixOf q.name) ∧ (w.answer (.isFile q)).1 = true
          then [q] else []), s, w) := by
  rw [visit, exec_call_bind]
  rcases (w.answer (.isDirectory q)).1 with e | _ | _
  · rfl
  · by_cases hs : sel.extensions.contains (Path.suffixOf q.name) = true
    · simp only [hs, if_true, true_and]
      rw [exec_call_bind]
      change ((if (w.answer (.isFile q)).1 = true then pure [q] else pure []) : Act _).exec s w = _
      cases (w.answer (.isFile q)).1 <;> rfl
    · simp only [hs]
      rfl
  · rfl

/-- **What is done at a directory** is told by the names in it. -/
theorem exec_walk (sel : Selection) (depth : Nat) (p : Path) (s : Session) (w : World) :
    (walk sel (depth + 1) p).exec s w =
      match (w.answer (.list p)).1 with
      | .error e => (.error (.failure ⟨p, .list, e.reason⟩), s, w)
      | .ok names => (visitAll sel (walk sel depth) p (sorted names)).exec s w := by
  rw [walk, exec_call_bind]
  cases (w.answer (.list p)).1 <;> rfl

/-! ## A directory of files -/

/-- The names that are taken, where none of them is a directory. -/
def taken (w : World) (sel : Selection) (p : Path) (names : List String) : List String :=
  names.filter fun n =>
    !sel.ignored.contains n && sel.extensions.contains (Path.suffixOf n) &&
      (w.answer (.isFile (p.child n))).1

theorem exec_visitAll_of_flat
    (hflat : ∀ n ∈ names, (w.answer (.isDirectory (p.child n))).1 = .ok false) (s : Session) :
    (visitAll sel descend p names).exec s w = (.ok ((taken w sel p names).map p.child), s, w) := by
  induction names with
  | nil => rfl
  | cons n names ih =>
    obtain ⟨hn, hrest⟩ := List.forall_mem_cons.mp hflat
    have hrest := ih hrest
    by_cases hk : sel.ignored.contains n = true
    · rw [visitAll, if_pos hk, hrest, taken, taken, List.filter_cons, hk]
      rfl
    · have hvisit : (visit sel descend (p.child n)).exec s w =
          (.ok (if sel.extensions.contains (Path.suffixOf n) ∧
            (w.answer (.isFile (p.child n))).1 = true then [p.child n] else []), s, w) := by
        rw [exec_visit, hn, Path.name_child]
      rw [visitAll, if_neg hk]
      refine exec_bind_eq_ok.mpr ⟨_, _, _, hvisit, exec_bind_eq_ok.mpr ⟨_, _, _, hrest, ?_⟩⟩
      rw [taken, taken, List.filter_cons, Bool.eq_false_iff.mpr hk]
      simp only [Bool.not_false, Bool.true_and, Bool.and_eq_true]
      split <;> rfl

/-! ## Walks that come to their end -/

/-- Paths that are those of some names below a path, once each and in the order of the names. -/
def Enumerates (p : Path) (found : List Path) (P : List String → Prop) : Prop :=
  ∃ nss : List (List String), found = nss.map p.below ∧ nss.Pairwise (List.Lex (· < ·)) ∧
    ∀ ns, ns ∈ nss ↔ P ns

theorem Enumerates.congr {P Q : List String → Prop} (h : Enumerates p found P)
    (hPQ : ∀ ns, P ns ↔ Q ns) : Enumerates p found Q := by
  obtain ⟨nss, hfound, horder, hmem⟩ := h
  exact ⟨nss, hfound, horder, fun ns => (hmem ns).trans (hPQ ns)⟩

theorem enumerates_nil {P : List String → Prop} (h : ∀ ns, ¬ P ns) : Enumerates p [] P :=
  ⟨[], rfl, .nil, fun ns => ⟨fun hn => (List.not_mem_nil hn).elim, fun hn => (h ns hn).elim⟩⟩

/-- What is below one name comes before what is below later ones. -/
theorem Enumerates.cons {rest : List Path} {P Q : List String → Prop}
    (hP : Enumerates (p.child n) found P) (hQ : Enumerates p rest Q)
    (hlater : ∀ ns, Q ns → ∃ m ms, ns = m :: ms ∧ n < m) :
    Enumerates p (found ++ rest) fun ns => (∃ ms, ns = n :: ms ∧ P ms) ∨ Q ns := by
  obtain ⟨mss, rfl, hmss, hmemP⟩ := hP
  obtain ⟨nss, rfl, hnss, hmemQ⟩ := hQ
  refine ⟨mss.map (n :: ·) ++ nss, ?_, ?_, ?_⟩
  · have hchild : (p.child n).below = fun ms => p.below (n :: ms) := funext (p.child_below n)
    rw [List.map_append, List.map_map, hchild]
    rfl
  · refine List.pairwise_append.mpr ⟨List.pairwise_map.mpr (hmss.imp .cons), hnss, ?_⟩
    intro a ha b hb
    obtain ⟨ms, _, rfl⟩ := List.mem_map.mp ha
    obtain ⟨m, ms', rfl, hlt⟩ := hlater b ((hmemQ b).mp hb)
    exact .rel hlt
  · intro ns
    simp only [List.mem_append, List.mem_map, hmemP, hmemQ, and_comm, eq_comm]

/-- **What is found at an entry.** -/
theorem enumerates_visit
    (hdescend : ∀ {p found s t u}, (descend p).exec s w = (.ok found, t, u) →
      Enumerates p found fun ns => ns ≠ [] ∧ Under w sel p ns)
    (h : (visit sel descend q).exec s w = (.ok found, t, u)) :
    Enumerates q found (Under w sel q) := by
  rw [exec_visit] at h
  split at h
  · cases h
  · next hd =>
    -- a directory, so that nothing is wanted at the entry itself
    have hdir := World.holds_dir_eq_true.mp (World.unless?_eq_ok.mp hd).2
    refine (hdescend h).congr fun ns => and_iff_right_of_imp ?_
    rintro hu rfl
    cases hu with
    | here hf _ => exact hf.not_isDirectory hdir
  · next hd =>
    have hdir : ¬ w.IsDirectory q := by
      rw [← World.holds_dir_eq_true, (World.unless?_eq_ok.mp hd).2]
      simp
    cases h
    refine ⟨if sel.extensions.contains (Path.suffixOf q.name) ∧ (w.answer (.isFile q)).1 = true
      then [[]] else [], ?_, ?_, fun ns => ?_⟩
    · split
      · rw [List.map_singleton, Path.below_nil]
      · rfl
    · split
      · exact List.pairwise_singleton _ _
      · exact .nil
    · simp only [List.contains_iff_mem]
      constructor
      · intro hns
        split at hns
        · next hwanted =>
          obtain rfl := List.mem_singleton.mp hns
          exact .here (World.answer_isFile.mp hwanted.2) hwanted.1
        · cases hns
      · intro hu
        cases hu with
        | here hf hs => rw [if_pos ⟨hs, World.answer_isFile.mpr hf⟩]; exact .head _
        | inside hd _ _ _ => exact absurd hd hdir

/-- **What is found among entries**, whose names stand in order. -/
theorem enumerates_visitAll (hlook : ∀ p, Calling Call.Looks (fun _ => True) (descend p))
    (hdescend : ∀ {p found s t u}, (descend p).exec s w = (.ok found, t, u) →
      Enumerates p found fun ns => ns ≠ [] ∧ Under w sel p ns)
    (horder : names.Pairwise (· < ·))
    (h : (visitAll sel descend p names).exec s w = (.ok found, t, u)) :
    Enumerates p found fun ns =>
      ∃ n ms, ns = n :: ms ∧ n ∈ names ∧ n ∉ sel.ignored ∧ Under w sel (p.child n) ms := by
  induction names generalizing s found with
  | nil =>
    cases h
    refine enumerates_nil ?_
    rintro ns ⟨n, ms, _, hn, _⟩
    cases hn
  | cons n names ih =>
    obtain ⟨hbefore, horder⟩ := List.pairwise_cons.mp horder
    rw [visitAll] at h
    split at h
    · next hk =>
      -- an ignored name adds nothing, to the walk or to the candidates
      refine (ih horder h).congr fun ns => ?_
      have hn : n ∈ sel.ignored := List.contains_iff_mem.mp hk
      grind
    · next hk =>
      have hn : n ∉ sel.ignored := mt List.contains_iff_mem.mpr hk
      obtain ⟨first, s₁, w₁, hvisit, h⟩ := exec_bind_eq_ok.mp h
      obtain rfl : w = w₁ := (calling_visit sel hlook _).unmoved.moved hvisit
      obtain ⟨rest, s₂, w₂, hrest, hpure⟩ := exec_bind_eq_ok.mp h
      cases hpure
      refine ((enumerates_visit hdescend hvisit).cons (ih horder hrest) ?_).congr fun ns => ?_
      · rintro ns ⟨m, ms, rfl, hm, _⟩
        exact ⟨m, ms, rfl, hbefore m hm⟩
      · grind

theorem sorted_pairwise (h : names.Nodup) : (sorted names).Pairwise (· < ·) := by
  have hle : (sorted names).Pairwise (· ≤ ·) := by
    have htrans : ∀ a b c : String, decide (a ≤ b) = true → decide (b ≤ c) = true →
        decide (a ≤ c) = true := by
      intro a b c hab hbc
      exact decide_eq_true (String.le_trans (of_decide_eq_true hab) (of_decide_eq_true hbc))
    have htotal : ∀ a b : String, (decide (a ≤ b) || decide (b ≤ a)) = true := by
      intro a b
      simpa using String.le_total a b
    exact (List.pairwise_mergeSort htrans htotal names).imp of_decide_eq_true
  have hnodup : (sorted names).Nodup := (List.mergeSort_perm names _).nodup_iff.mpr h
  refine (hle.and hnodup).imp ?_
  rintro a b ⟨hab, hne⟩
  exact Decidable.byContradiction fun hlt => hne (String.le_antisymm hab hlt)

theorem sorted_of_pairwise (h : names.Pairwise (· ≤ ·)) : sorted names = names :=
  List.mergeSort_of_pairwise (h.imp decide_eq_true)

/-- **What a walk finds.** -/
theorem enumerates_walk (hnamed : w.store.Named) {depth : Nat}
    (h : (walk sel depth p).exec s w = (.ok found, t, u)) :
    Enumerates p found fun ns => ns ≠ [] ∧ Under w sel p ns := by
  induction depth generalizing p found s t u with
  | zero => cases h
  | succ depth ih =>
    rw [exec_walk] at h
    split at h
    · cases h
    · next names hlist =>
      obtain ⟨l, hl, hdir, rfl⟩ := World.list_eq_ok.mp (World.unless?_eq_ok.mp hlist).2
      have hfound := enumerates_visitAll (fun p => calling_walk sel depth p) ih
        (sorted_pairwise (w.store.nodup_names l)) h
      refine hfound.congr fun ns => ?_
      constructor
      · rintro ⟨n, ms, rfl, hn, hk, hu⟩
        have hn := hnamed l n (List.mem_mergeSort.mp hn)
        exact ⟨List.cons_ne_nil n ms, .inside ⟨l, hl, hdir⟩ hn hk hu⟩
      · rintro ⟨hne, hu⟩
        cases hu with
        | here => exact absurd rfl hne
        | @inside _ n ms _ hn hk hu =>
          refine ⟨n, ms, rfl, List.mem_mergeSort.mpr ?_, hk, hu⟩
          obtain ⟨r, e, hr, he⟩ := hu.exists_entry
          exact World.mem_names_of_child hl hr he hn

/-! ## Walks that nothing stops -/

/-- A directory that a walk comes to. -/
inductive Visited (w : World) (sel : Selection) (root : Path) : Path → Prop
  | start : Visited w sel root root
  | child {p : Path} {n : String} {names : List String} (h : Visited w sel root p)
      (hlist : (w.answer (.list p)).1 = .ok names) (hn : n ∈ names) (hk : n ∉ sel.ignored)
      (hd : (w.answer (.isDirectory (p.child n))).1 = .ok true) : Visited w sel root (p.child n)

/-- **Nothing stops a walk**: the directories that it comes to can be listed, and it can be told of
every entry in them that is not ignored whether it is a directory. -/
structure Undisturbed (w : World) (sel : Selection) (root : Path) : Prop where
  lists : ∀ {p}, Visited w sel root p → ∃ names, (w.answer (.list p)).1 = .ok names
  stats : ∀ {p names n}, Visited w sel root p → (w.answer (.list p)).1 = .ok names → n ∈ names →
    n ∉ sel.ignored → ∃ b, (w.answer (.isDirectory (p.child n))).1 = .ok b

theorem exec_visit_of_stat {b : Bool} (hstat : (w.answer (.isDirectory q)).1 = .ok b)
    (hdescend : b = true → ∃ found, ∀ s, (descend q).exec s w = (.ok found, s, w)) :
    ∃ found, ∀ s, (visit sel descend q).exec s w = (.ok found, s, w) := by
  cases b with
  | true =>
    obtain ⟨found, hfound⟩ := hdescend rfl
    exact ⟨found, fun s => by rw [exec_visit, hstat]; exact hfound s⟩
  | false => exact ⟨_, fun s => by rw [exec_visit, hstat]⟩

theorem exec_visitAll_of_stats
    (h : ∀ n ∈ names, n ∉ sel.ignored → ∃ b, (w.answer (.isDirectory (p.child n))).1 = .ok b ∧
      (b = true → ∃ found, ∀ s, (descend (p.child n)).exec s w = (.ok found, s, w))) :
    ∃ found, ∀ s, (visitAll sel descend p names).exec s w = (.ok found, s, w) := by
  induction names with
  | nil => exact ⟨[], fun s => rfl⟩
  | cons n names ih =>
    obtain ⟨hn, hrest⟩ := List.forall_mem_cons.mp h
    obtain ⟨rest, hrest⟩ := ih hrest
    by_cases hk : n ∈ sel.ignored
    · refine ⟨rest, fun s => ?_⟩
      rw [visitAll, if_pos (List.contains_iff_mem.mpr hk)]
      exact hrest s
    · obtain ⟨b, hstat, hdescend⟩ := hn hk
      obtain ⟨found, hfound⟩ : ∃ found, ∀ s, (visit sel descend (p.child n)).exec s w =
          (.ok found, s, w) := exec_visit_of_stat hstat hdescend
      refine ⟨found ++ rest, fun s => ?_⟩
      rw [visitAll, if_neg (mt List.contains_iff_mem.mp hk)]
      exact exec_bind_eq_ok.mpr ⟨_, _, _, hfound s, exec_bind_eq_ok.mpr ⟨_, _, _, hrest s, rfl⟩⟩

/-- **A walk that nothing stops** comes to its end. The depth that is left and the names gone down
are together as much as the text of a path may hold. -/
theorem exec_walk_of_undisturbed (hnamed : w.store.Named) (hcalm : Undisturbed w sel root)
    {depth : Nat} (hp : Visited w sel root (root.below ns)) (hns : ∀ n ∈ ns, n ≠ "")
    (hdepth : World.mostPathBytes ≤ ns.length + depth) :
    ∃ found, ∀ s, (walk sel depth (root.below ns)).exec s w = (.ok found, s, w) := by
  induction depth generalizing ns with
  | zero =>
    -- a path with so many names is too long to be listed
    obtain ⟨names, hlist⟩ := hcalm.lists hp
    obtain ⟨l, hl, _, _⟩ := World.list_eq_ok.mp (World.unless?_eq_ok.mp hlist).2
    have hshort := (World.find_eq_ok.mp hl).1
    have hlong := root.length_le_text hns
    omega
  | succ depth ih =>
    obtain ⟨names, hlist⟩ := hcalm.lists hp
    have hall : ∃ found, ∀ s,
        (visitAll sel (walk sel depth) (root.below ns) (sorted names)).exec s w =
          (.ok found, s, w) := by
      refine exec_visitAll_of_stats fun n hn hk => ?_
      have hn := List.mem_mergeSort.mp hn
      obtain ⟨b, hstat⟩ := hcalm.stats hp hlist hn hk
      refine ⟨b, hstat, ?_⟩
      rintro rfl
      have hchild := hp.child hlist hn hk hstat
      obtain ⟨l, _, _, rfl⟩ := World.list_eq_ok.mp (World.unless?_eq_ok.mp hlist).2
      have hname := (hnamed l n hn).1
      rw [← Path.below_concat] at hchild ⊢
      refine ih hchild ?_ ?_
      · intro m hm
        rcases List.mem_append.mp hm with hm | hm
        · exact hns m hm
        · exact List.mem_singleton.mp hm ▸ hname
      · rw [List.length_append, List.length_singleton]
        omega
    obtain ⟨found, hfound⟩ := hall
    refine ⟨found, fun s => ?_⟩
    rw [exec_walk, hlist]
    exact hfound s

/-- What a discovery takes under some settings, where something else may be asked for. -/
def wanted (st : Settings) (extensions ignored : Option (List String)) : Selection :=
  ⟨extensions.getD st.discovery.extensions, ignored.getD st.discovery.ignoreNames⟩

/-- **A discovery finds exactly the candidates**, each of them once, in the order of their names,
when the settings can be loaded and nothing stops the walk. -/
theorem discover_finds_candidates {st : Settings} {s₁ : Session} {w₁ : World}
    (hload : Config.settings.exec s w = (.ok st, s₁, w₁)) (hnamed : w.store.Named)
    {extensions ignored : Option (List String)}
    (hcalm : Undisturbed w (wanted st extensions ignored) root) :
    ∃ (nss : List (List String)) (t : Session) (u : World),
      (discover root extensions ignored).exec s w = (.ok (nss.map root.below), t, u) ∧
      nss.Pairwise (List.Lex (· < ·)) ∧ (nss.map root.below).Nodup ∧
      ∀ ns, ns ∈ nss ↔ Candidate w (wanted st extensions ignored) root ns := by
  obtain rfl : w = w₁ := Config.confined_settings.moved hload
  obtain ⟨found, hwalk⟩ : ∃ found, ∀ s,
      (walk (wanted st extensions ignored) World.mostPathBytes root).exec s w =
        (.ok found, s, w) := by
    have hstart : Visited w (wanted st extensions ignored) root (root.below []) :=
      root.below_nil.symm ▸ .start
    rw [← root.below_nil]
    exact exec_walk_of_undisturbed hnamed hcalm hstart (fun n hn => nomatch hn)
      (Nat.le_add_left _ _)
  obtain ⟨nss, rfl, horder, hmem⟩ := enumerates_walk hnamed (hwalk s₁)
  obtain ⟨t, u, hevent, -⟩ := Log.exec_event logger .debug "discovery_completed"
    [("root", .text root.text), ("count", .int (nss.map root.below).length)] s₁ w
  refine ⟨nss, t, u, ?_, horder, ?_, fun ns => ?_⟩
  · exact exec_bind_eq_ok.mpr ⟨_, _, _, hload, exec_bind_eq_ok.mpr ⟨_, _, _, hwalk s₁,
      exec_bind_eq_ok.mpr ⟨_, _, _, hevent, rfl⟩⟩⟩
  · refine List.pairwise_map.mpr (horder.imp fun {a b} hab heq => ?_)
    obtain rfl := root.below_injective heq
    exact List.lex_irrefl String.lt_irrefl a hab
  · obtain ⟨names, hlist⟩ := hcalm.lists .start
    obtain ⟨l, hl, hdir, _⟩ := World.list_eq_ok.mp (World.unless?_eq_ok.mp hlist).2
    rw [hmem, candidate_iff_under ⟨l, hl, hdir⟩]

open Run (plain loaded top)

/-- A directory that is named like a file, a link into it, and an ignored directory. -/
def sources : Store :=
  ⟨[(["lib.js"], .dir), (["lib.js", "x.js"], .file []), (["b.js"], .link "lib.js/x.js"),
    (["node_modules"], .dir), (["node_modules", "y.js"], .file [])], by decide⟩

theorem undisturbed_sources :
    Undisturbed (plain sources) (wanted .standard none none) ⟨.root, []⟩ := by
  have hroot : ((plain sources).answer (.list ⟨.root, []⟩)).1 =
      .ok ["lib.js", "b.js", "node_modules"] := by decide
  have hlib : ((plain sources).answer (.list (top "lib.js"))).1 = .ok ["x.js"] := by decide
  have hstats : ∀ p ∈ [top "lib.js", top "b.js", (top "lib.js").child "x.js"],
      ((plain sources).answer (.isDirectory p)).1 = .ok (p == top "lib.js") := by decide
  -- the entries of a directory that is visited, and what is said of them
  have hentries : ∀ {p n names}, p = ⟨.root, []⟩ ∨ p = top "lib.js" →
      ((plain sources).answer (.list p)).1 = .ok names → n ∈ names →
      n ∉ ["node_modules", "bundle.js"] →
      ((plain sources).answer (.isDirectory (p.child n))).1 = .ok (p.child n == top "lib.js") := by
    rintro p n names (rfl | rfl) hlist hn hk
    · rw [hroot] at hlist
      cases hlist
      refine hstats _ ?_
      simp only [List.mem_cons, List.not_mem_nil, or_false, not_or] at hn hk
      rcases hn with rfl | rfl | rfl
      · exact .head _
      · exact .tail _ (.head _)
      · exact absurd rfl hk.1
    · rw [hlib] at hlist
      cases hlist
      obtain rfl := List.mem_singleton.mp hn
      exact hstats _ (.tail _ (.tail _ (.head _)))
  have hvisited : ∀ {p}, Visited (plain sources) (wanted .standard none none) ⟨.root, []⟩ p →
      p = ⟨.root, []⟩ ∨ p = top "lib.js" := by
    intro p h
    induction h with
    | start => exact .inl rfl
    | child _ hlist hn hk hd ih =>
      rw [hentries ih hlist hn hk] at hd
      exact .inr (eq_of_beq (Except.ok.inj hd))
  refine ⟨fun hp => ?_, fun hp hlist hn hk => ⟨_, hentries (hvisited hp) hlist hn hk⟩⟩
  rcases hvisited hp with rfl | rfl
  · exact ⟨_, hroot⟩
  · exact ⟨_, hlib⟩

theorem discover_finds_two_candidates :
    ∃ (nss : List (List String)) (t : Session) (u : World),
      (discover ⟨.root, []⟩ none none).exec (loaded .standard) (plain sources) =
        (.ok (nss.map (Path.below ⟨.root, []⟩)), t, u) ∧
      nss.Pairwise (List.Lex (· < ·)) ∧ (nss.map (Path.below ⟨.root, []⟩)).Nodup ∧
      ∀ ns, ns ∈ nss ↔ Candidate (plain sources) (wanted .standard none none) ⟨.root, []⟩ ns :=
  have hload : Config.settings.exec (loaded .standard) (plain sources) =
      (.ok .standard, loaded .standard, plain sources) := rfl
  discover_finds_candidates hload (by decide) undisturbed_sources

end Discovery

namespace Run

/-- **A walk of a directory of files** finds those that are taken. -/
theorem exec_walk_of_flat {w : World} {sel : Selection} {names found : List String}
    (hlist : (w.answer (.list ⟨.root, []⟩)).1 = .ok names) (horder : names.Pairwise (· ≤ ·))
    (hflat : ∀ n ∈ names, (w.answer (.isDirectory (top n))).1 = .ok false)
    (htaken : Discovery.taken w sel ⟨.root, []⟩ names = found) (s : Session) :
    (Discovery.walk sel World.mostPathBytes ⟨.root, []⟩).exec s w = (.ok (found.map top), s, w) := by
  rw [World.mostPathBytes, Discovery.exec_walk, hlist, ← htaken]
  simp only [Discovery.sorted_of_pairwise horder]
  exact Discovery.exec_visitAll_of_flat hflat s

/-- **What a run at the root finds** in a store that has no directories. -/
theorem exec_candidates_of_flat {store : Store} {names found : List String}
    (hlist : ((attached store).answer (.list ⟨.root, []⟩)).1 = .ok names)
    (horder : names.Pairwise (· ≤ ·))
    (hflat : ∀ n ∈ names, ((attached store).answer (.isDirectory (top n))).1 = .ok false)
    (htaken : Discovery.taken (attached store) (Discovery.wanted .standard none none) ⟨.root, []⟩
      names = found)
    (v : Variant) :
    (candidates ⟨.root, []⟩ v none).exec (loaded .standard) (plain store) =
      (.ok (.standard, found.map top), searched v, attached store) := by
  have hwalk := exec_walk_of_flat hlist horder hflat htaken
  -- all but the walk computes
  refine exec_bind_eq_ok.mpr ⟨(), ⟨some .standard, ⟨some .console, .standard, []⟩, []⟩,
    attached store, rfl, exec_bind_eq_ok.mpr ⟨_, _, _, rfl, exec_bind_eq_ok.mpr ⟨_, _, _, rfl, ?_⟩⟩⟩
  refine exec_bind_eq_ok.mpr ⟨_, _, _, exec_bind_eq_ok.mpr ⟨_, _, _, rfl,
    exec_bind_eq_ok.mpr ⟨_, _, _, hwalk _, exec_bind_eq_ok.mpr ⟨(), _, _, rfl, rfl⟩⟩⟩, ?_⟩
  rfl

end Run

end Handout
