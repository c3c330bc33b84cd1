import Handout.Store

/-!
# Finding a path, step by step

`Store.resolve` walks names and starts again at each link that it meets. Here the same is said as a
relation, `Store.Leads`, with one rule for each thing that a single name can lead to; `resolve_eq_ok`
ties the two together. The relation counts the links, so that what is left of the allowance is a
number that proofs can add and compare.

Two changes of a store are followed. What files hold does not matter for finding a path
(`Alike.resolve`). Taking an entry away spoils only the paths that end there: a path to one file goes
on leading to it when the entry taken away went to another file (`Leads.erase`), since a walk that
passes through a file, or through a link to a file, comes to nothing.
-/

namespace Handout

/-- An entry but for what a file holds. -/
def Entry.shape : Entry → Entry
  | .file _ => .file []
  | e => e

namespace Store

variable {s t : Store} {follow : Bool}

/-! ## One name -/

/-- What one name leads to from a location. -/
inductive Step
  | moved (l : Location)
  /-- A link under the name. -/
  | link (target : String)
  /-- Nothing under the name, in a directory that is there. -/
  | missing
  | failed (e : OsError)
  deriving DecidableEq, Repr

/-- The step of one name from a location. -/
def step (s : Store) (l : Location) (n : String) : Step :=
  match s.get? l with
  | none => .failed .absent
  | some (.file _) => .failed .notDirectory
  | some (.link _) => .failed .notDirectory
  | some .dir =>
    if n = "" ∨ n = "." then .moved l
    else if n = ".." then .moved l.dropLast
    else if mostNameBytes < n.utf8ByteSize then .failed .nameTooLong
    else
      match s.get? (l ++ [n]) with
      | none => .missing
      | some (.link t) => .link t
      | some _ => .moved (l ++ [n])

/-- A walk goes by the steps of its names. -/
theorem walk_cons (l : Location) (n : String) (rest : List String) :
    s.walk follow l (n :: rest) =
      match s.step l n with
      | .moved k => s.walk follow k rest
      | .link t => if rest = [] ∧ follow = false then .reached (l ++ [n]) else .atLink l t rest
      | .missing => if rest = [] then .reached (l ++ [n]) else .failed .absent
      | .failed e => .failed e := by
  grind [walk, step]

/-- A step is taken from a directory only. -/
theorem exists_step_eq_failed {l : Location} (h : s.get? l ≠ some .dir) (n : String) :
    ∃ e, s.step l n = .failed e := by
  rw [step]
  rcases hl : s.get? l with _ | e
  · exact ⟨_, rfl⟩
  · cases e with
    | file _ => exact ⟨_, rfl⟩
    | link _ => exact ⟨_, rfl⟩
    | dir => exact absurd hl h

theorem get?_of_step_link {l : Location} {n target : String} (h : s.step l n = .link target) :
    s.get? (l ++ [n]) = some (.link target) := by
  grind [step]

theorem get?_of_step_missing {l : Location} {n : String} (h : s.step l n = .missing) :
    s.get? (l ++ [n]) = none := by
  grind [step]

/-! ## A path -/

/-- **Names lead from a location to another one**, through so many links. The last name need not
exist, and a link under it stays where links at the end are not followed. -/
inductive Leads (s : Store) (follow : Bool) :
    Nat → Location → List String → Location → Prop
  | here (l : Location) : Leads s follow 0 l [] l
  | move {k : Nat} {l m r : Location} {n : String} {rest : List String}
      (h : s.step l n = .moved m) (hr : Leads s follow k m rest r) : Leads s follow k l (n :: rest) r
  | pass {k : Nat} {l r : Location} {n target : String} {rest : List String}
      (h : s.step l n = .link target) (hf : ¬ (rest = [] ∧ follow = false))
      (hr : Leads s follow k (linkStart l target) (linkNames target ++ rest) r) :
      Leads s follow (k + 1) l (n :: rest) r
  | stay {l : Location} {n target : String} (h : s.step l n = .link target) (hf : follow = false) :
      Leads s follow 0 l [n] (l ++ [n])
  | vacant {l : Location} {n : String} (h : s.step l n = .missing) : Leads s follow 0 l [n] (l ++ [n])

/-- Where a name moves the walk, the names after it lead on from there. -/
theorem Leads.of_moved {k : Nat} {l m r : Location} {n : String} {rest : List String}
    (h : s.Leads follow k l (n :: rest) r) (hs : s.step l n = .moved m) :
    s.Leads follow k m rest r := by
  cases h with
  | move h hr => rw [hs] at h; cases h; exact hr
  | pass h _ _ => rw [hs] at h; cases h
  | stay h _ => rw [hs] at h; cases h
  | vacant h => rw [hs] at h; cases h

/-- Where a link is followed, its target and the names after it lead on. -/
theorem Leads.of_link {k : Nat} {l r : Location} {n target : String} {rest : List String}
    (h : s.Leads true k l (n :: rest) r) (hs : s.step l n = .link target) :
    ∃ j, s.Leads true j (linkStart l target) (linkNames target ++ rest) r := by
  cases h with
  | move h _ => rw [hs] at h; cases h
  | pass h _ hr => rw [hs] at h; cases h; exact ⟨_, hr⟩
  | stay _ hf => cases hf
  | vacant h => rw [hs] at h; cases h

/-- No name leads on from what is no directory. -/
theorem Leads.get?_eq_dir {k : Nat} {l r : Location} {n : String} {rest : List String}
    (h : s.Leads follow k l (n :: rest) r) : s.get? l = some .dir := by
  apply Decidable.byContradiction
  intro hl
  obtain ⟨e, he⟩ := exists_step_eq_failed hl n
  cases h with
  | move h _ => rw [he] at h; cases h
  | pass h _ _ => rw [he] at h; cases h
  | stay h _ => rw [he] at h; cases h
  | vacant h => rw [he] at h; cases h

/-- Names that a walk uses up lead where it gets to. -/
theorem Leads.of_walk_reached {l r : Location} {names : List String}
    (h : s.walk follow l names = .reached r) : s.Leads follow 0 l names r := by
  induction names generalizing l with
  | nil => cases h; exact .here _
  | cons n rest ih =>
    rw [walk_cons] at h
    cases hs : s.step l n with
    | moved m => rw [hs] at h; exact .move hs (ih h)
    | link target =>
      rw [hs] at h
      simp only at h
      split at h
      · next hf => cases h; rw [hf.1]; exact .stay hs hf.2
      · cases h
    | missing =>
      rw [hs] at h
      simp only at h
      split at h
      · next hr => cases h; rw [hr]; exact .vacant hs
      · cases h
    | failed e => rw [hs] at h; cases h

/-- Names lead past the link that a walk stops at to where the names after it lead. -/
theorem Leads.of_walk_atLink {l dir r : Location} {names rest : List String} {target : String}
    {k : Nat} (h : s.walk follow l names = .atLink dir target rest)
    (hr : s.Leads follow k (linkStart dir target) (linkNames target ++ rest) r) :
    s.Leads follow (k + 1) l names r := by
  induction names generalizing l with
  | nil => cases h
  | cons n names ih =>
    rw [walk_cons] at h
    cases hs : s.step l n with
    | moved m => rw [hs] at h; exact .move hs (ih h)
    | link target =>
      rw [hs] at h
      simp only at h
      split at h
      · cases h
      · next hf => cases h; exact .pass hs hf hr
    | missing => rw [hs] at h; simp only at h; split at h <;> cases h
    | failed e => rw [hs] at h; cases h

theorem leads_of_resolveWithin {k : Nat} {l r : Location} {names : List String}
    (h : s.resolveWithin follow k l names = .ok r) : ∃ m ≤ k, s.Leads follow m l names r := by
  induction k generalizing l names with
  | zero =>
    rw [resolveWithin] at h
    split at h
    · next hw => cases h; exact ⟨0, Nat.le_refl 0, .of_walk_reached hw⟩
    · cases h
    · cases h
  | succ k ih =>
    rw [resolveWithin] at h
    split at h
    · next hw => cases h; exact ⟨0, Nat.zero_le _, .of_walk_reached hw⟩
    · cases h
    · next hw =>
      obtain ⟨m, hm, hr⟩ := ih h
      exact ⟨m + 1, Nat.succ_le_succ hm, .of_walk_atLink hw hr⟩

/-- A name that moves the walk does not matter for finding what follows. -/
theorem resolveWithin_move {l m : Location} {n : String} (h : s.step l n = .moved m) (k : Nat)
    (rest : List String) :
    s.resolveWithin follow k l (n :: rest) = s.resolveWithin follow k m rest := by
  have hw : s.walk follow l (n :: rest) = s.walk follow m rest := by rw [walk_cons, h]
  rw [resolveWithin, hw, ← resolveWithin]

theorem Leads.resolveWithin {k m : Nat} {l r : Location} {names : List String}
    (h : s.Leads follow m l names r) (hm : m ≤ k) : s.resolveWithin follow k l names = .ok r := by
  induction h generalizing k with
  | here l => rw [Store.resolveWithin, walk]
  | move hs _ ih => rw [resolveWithin_move hs, ih hm]
  | pass hs hf _ ih =>
    obtain ⟨k, rfl⟩ := Nat.exists_eq_add_of_le' hm
    rw [Store.resolveWithin, walk_cons, hs]
    simp only [if_neg hf]
    exact ih (Nat.le_add_left _ k)
  | stay hs hf =>
    rw [Store.resolveWithin, walk_cons, hs]
    simp only [hf, and_self, if_true]
  | vacant hs =>
    rw [Store.resolveWithin, walk_cons, hs]
    simp only [if_true]

/-- **Finding a path** is following its names through no more links than are allowed. -/
theorem resolve_eq_ok {l r : Location} {names : List String} :
    s.resolve follow l names = .ok r ↔ ∃ k ≤ mostLinks, s.Leads follow k l names r :=
  ⟨leads_of_resolveWithin, fun ⟨_, hk, h⟩ => h.resolveWithin hk⟩

/-- Names lead to one location only. -/
theorem Leads.unique {k m : Nat} {l r q : Location} {names : List String}
    (hr : s.Leads follow k l names r) (hq : s.Leads follow m l names q) : r = q := by
  have h := hr.resolveWithin (Nat.le_max_left k m)
  rw [hq.resolveWithin (Nat.le_max_right k m)] at h
  exact (Except.ok.inj h).symm

/-- **Names one after the other** lead where the later ones lead from where the first ones do, and
through as many links as both. -/
theorem Leads.exists_append {k : Nat} {l r : Location} {names rest : List String}
    (h : s.Leads true k l (names ++ rest) r) :
    ∃ m i j, i + j = k ∧ s.Leads true i l names m ∧ s.Leads true j m rest r := by
  generalize hall : names ++ rest = all at h
  induction h generalizing names with
  | here l =>
    obtain ⟨rfl, rfl⟩ := List.append_eq_nil_iff.mp hall
    exact ⟨l, 0, 0, rfl, .here l, .here l⟩
  | @move k l m r n rest' hs hr ih =>
    cases names with
    | nil =>
      obtain rfl : rest = n :: rest' := hall
      exact ⟨l, 0, k, Nat.zero_add k, .here l, .move hs hr⟩
    | cons x names =>
      obtain ⟨rfl, rfl⟩ := List.cons.inj hall
      obtain ⟨q, i, j, hij, hq, hj⟩ := ih rfl
      exact ⟨q, i, j, hij, .move hs hq, hj⟩
  | @pass k l r n target rest' hs hf hr ih =>
    cases names with
    | nil =>
      obtain rfl : rest = n :: rest' := hall
      exact ⟨l, 0, k + 1, Nat.zero_add _, .here l, .pass hs hf hr⟩
    | cons x names =>
      obtain ⟨rfl, rfl⟩ := List.cons.inj hall
      -- the names of the link's target come before what is left of the first names
      obtain ⟨q, i, j, hij, hq, hj⟩ := ih (List.append_assoc (linkNames target) names rest)
      exact ⟨q, i + 1, j, by rw [Nat.add_right_comm, hij], .pass hs (by simp) hq, hj⟩
  | stay _ hf => cases hf
  | @vacant l n hs =>
    cases names with
    | nil =>
      obtain rfl : rest = [n] := hall
      exact ⟨l, 0, 0, rfl, .here l, .vacant hs⟩
    | cons x names =>
      obtain ⟨rfl, hnil⟩ := List.cons.inj hall
      obtain ⟨rfl, rfl⟩ := List.append_eq_nil_iff.mp hnil
      exact ⟨l ++ [x], 0, 0, rfl, .vacant hs, .here _⟩

/-! ## The names in a directory -/

/-- A name that an entry of a directory can have. -/
def IsName (n : String) : Prop :=
  n ≠ "" ∧ n ≠ "." ∧ n ≠ ".."

instance (n : String) : Decidable (IsName n) :=
  inferInstanceAs (Decidable (_ ∧ _))

/-- The name of an entry moves a walk to that entry. -/
theorem eq_of_step_moved {l q : Location} {n : String} (h : s.step l n = .moved q) (hn : IsName n) :
    q = l ++ [n] := by
  obtain ⟨hempty, hpoint, hpoints⟩ := hn
  grind [step]

theorem dropLast_getLast?_iff {k l : Location} {n : String} :
    k.dropLast = l ∧ k.getLast? = some n ↔ k = l ++ [n] := by
  constructor
  · rintro ⟨rfl, hn⟩
    obtain ⟨ys, rfl⟩ := List.getLast?_eq_some_iff.mp hn
    rw [List.dropLast_concat]
  · rintro rfl
    simp

/-- **The names in a directory** are those under which it has entries. -/
theorem mem_names {l : Location} {n : String} : n ∈ s.names l ↔ (s.get? (l ++ [n])).isSome := by
  rw [get?, if_neg (by simp), List.lookup_isSome_iff, names, List.mem_filterMap]
  refine exists_congr fun x => and_congr_right fun _ => ?_
  rw [Option.ite_none_right_eq_some, dropLast_getLast?_iff, beq_iff_eq, eq_comm]

/-- No name stands twice in a directory. -/
theorem nodup_names (s : Store) (l : Location) : (s.names l).Nodup := by
  refine List.pairwise_filterMap.mpr ((List.pairwise_map.mp s.distinct).imp ?_)
  rintro x y hne n hx m hy rfl
  rw [Option.ite_none_right_eq_some, dropLast_getLast?_iff] at hx hy
  exact hne (hx.trans hy.symm)

/-- A name that leads from a directory to an entry is one of the names in it. -/
theorem Leads.mem_names {k : Nat} {l r : Location} {n : String} {e : Entry}
    (h : s.Leads true k l [n] r) (hr : s.get? r = some e) (hn : IsName n) : n ∈ s.names l := by
  obtain ⟨hempty, hpoint, hpoints⟩ := hn
  rw [Store.mem_names]
  cases h with
  | move hs hr' => grind [step]
  | pass hs _ _ => rw [get?_of_step_link hs]; rfl
  | stay _ hf => cases hf
  | vacant hs =>
    rw [get?_of_step_missing hs] at hr
    cases hr

/-- **A store of names**: every entry in a directory is under a name that an entry can have. -/
def Named (s : Store) : Prop :=
  ∀ l, ∀ n ∈ s.names l, IsName n

/-- Whether a store is one of names is seen from its entries. -/
theorem named_iff : Named s ↔ ∀ x ∈ s.entries, ∀ n ∈ x.1.getLast?, IsName n := by
  constructor
  · intro h x hx n hn
    refine h x.1.dropLast n (List.mem_filterMap.mpr ⟨x, hx, ?_⟩)
    rw [if_pos rfl, hn]
  · intro h l n hn
    obtain ⟨x, hx, hxn⟩ := List.mem_filterMap.mp hn
    exact h x hx n (Option.ite_none_right_eq_some.mp hxn).2

instance (s : Store) : Decidable (Named s) :=
  decidable_of_iff _ named_iff.symm

/-! ## What files hold -/

/-- Stores with the same entries but for what files hold. -/
def Alike (s t : Store) : Prop :=
  ∀ l, (s.get? l).map Entry.shape = (t.get? l).map Entry.shape

theorem Alike.refl (s : Store) : Alike s s :=
  fun _ => rfl

theorem Alike.trans {u : Store} (h : Alike s t) (k : Alike t u) : Alike s u :=
  fun l => (h l).trans (k l)

/-- Entries of one shape are the same, or both files. -/
theorem eq_or_files_of_shape {a b : Option Entry} (h : a.map Entry.shape = b.map Entry.shape) :
    a = b ∨ ∃ x y, a = some (.file x) ∧ b = some (.file y) := by
  rcases a with _ | a <;> rcases b with _ | b
  · exact .inl rfl
  · cases h
  · cases h
  · cases a <;> cases b <;> simp_all [Entry.shape]

theorem Alike.step (h : Alike s t) (l : Location) (n : String) : s.step l n = t.step l n := by
  rcases eq_or_files_of_shape (h l) with hl | ⟨x, y, hl, hl'⟩
  · rcases eq_or_files_of_shape (h (l ++ [n])) with hn | ⟨x, y, hn, hn'⟩
    · simp only [Store.step, hl, hn]
    · simp only [Store.step, hl, hn, hn']
  · simp only [Store.step, hl, hl']

theorem Alike.walk (h : Alike s t) (l : Location) (names : List String) :
    s.walk follow l names = t.walk follow l names := by
  induction names generalizing l with
  | nil => rfl
  | cons n rest ih => simp only [walk_cons, h.step, ih]

theorem Alike.resolveWithin (h : Alike s t) (k : Nat) (l : Location) (names : List String) :
    s.resolveWithin follow k l names = t.resolveWithin follow k l names := by
  induction k generalizing l names with
  | zero =>
    rw [Store.resolveWithin.eq_1 s, h.walk, Store.resolveWithin.eq_1 t]
  | succ k ih =>
    rw [Store.resolveWithin.eq_1 s, h.walk, Store.resolveWithin.eq_1 t]
    simp only [ih]

/-- **What files hold does not matter for finding a path.** -/
theorem Alike.resolve (h : Alike s t) (l : Location) (names : List String) :
    s.resolve follow l names = t.resolve follow l names :=
  h.resolveWithin mostLinks l names

/-- Other bytes in a file leave a store alike. -/
theorem alike_put {l : Location} {b : List UInt8} (h : s.get? l = some (.file b)) (c : List UInt8) :
    Alike s (s.put l (.file c)) := by
  intro k
  have hl : l ≠ [] := by
    rintro rfl
    cases h
  rw [get?_put s l k _ hl]
  split
  · next hk => rw [hk, h]; rfl
  · rfl

/-! ## An entry taken away -/

/-- Names that lead to a file lead on to nothing. -/
theorem Leads.not_past_file {k m : Nat} {l r q : Location} {names rest : List String}
    {b : List UInt8} (h : s.Leads true k l names r) (hb : s.get? r = some (.file b))
    (hne : rest ≠ []) : ¬ s.Leads true m l (names ++ rest) q := by
  intro hq
  induction h generalizing m with
  | here l =>
    obtain ⟨n, rest, rfl⟩ := List.exists_cons_of_ne_nil hne
    rw [hq.get?_eq_dir] at hb
    cases hb
  | move hs _ ih => exact ih hb (hq.of_moved hs)
  | pass hs _ _ ih =>
    obtain ⟨j, hj⟩ := hq.of_link hs
    rw [List.append_eq, ← List.append_assoc] at hj
    exact ih hb hj
  | stay _ hf => cases hf
  | vacant hs =>
    rw [get?_of_step_missing hs] at hb
    cases hb

/-- **An entry goes to a location**: it is there itself, or it is a link that leads there. -/
def GoesTo (s : Store) (d r : Location) : Prop :=
  d = r ∨ ∃ target k, s.get? d = some (.link target) ∧
    s.Leads true k (linkStart d.dropLast target) (linkNames target) r

/-- An entry that goes to one file is no other file. -/
theorem GoesTo.ne_of_file {d r q : Location} {b : List UInt8} (h : s.GoesTo d r)
    (hq : s.get? q = some (.file b)) (hne : r ≠ q) : q ≠ d := by
  rintro rfl
  rcases h with rfl | ⟨target, _, ht, _⟩
  · exact hne rfl
  · rw [hq] at ht
    cases ht

/-- Names that lead to an entry lead, with a link at the end left alone, to one that goes there. -/
theorem Leads.exists_goesTo {k : Nat} {l r : Location} {names : List String} {e : Entry}
    (h : s.Leads true k l names r) (hr : s.get? r = some e) :
    ∃ d, (∃ m ≤ k, s.Leads false m l names d) ∧ s.GoesTo d r := by
  induction h with
  | here l => exact ⟨l, ⟨0, Nat.le_refl 0, .here l⟩, .inl rfl⟩
  | move hs _ ih =>
    obtain ⟨d, ⟨m, hm, hd⟩, hg⟩ := ih hr
    exact ⟨d, ⟨m, hm, .move hs hd⟩, hg⟩
  | @pass k l r n target rest hs _ hl ih =>
    cases rest with
    | nil =>
      rw [List.append_nil] at hl
      refine ⟨l ++ [n], ⟨0, Nat.zero_le _, .stay hs rfl⟩, .inr ⟨target, k, get?_of_step_link hs, ?_⟩⟩
      rwa [List.dropLast_concat]
    | cons x rest =>
      obtain ⟨d, ⟨m, hm, hd⟩, hg⟩ := ih hr
      exact ⟨d, ⟨m + 1, Nat.succ_le_succ hm, .pass hs (by simp) hd⟩, hg⟩
  | stay _ hf => cases hf
  | vacant hs =>
    rw [get?_of_step_missing hs] at hr
    cases hr

/-- Taking an entry away that is no directory changes the steps onto it only. -/
theorem step_erase {d l : Location} (hd : d ≠ []) (hl : l ≠ d) (n : String) :
    (s.erase d).step l n = s.step l n ∨
      l ++ [n] = d ∧ (s.step l n = .moved d ∨ s.step l n = .missing ∨ ∃ t, s.step l n = .link t) := by
  have hsame := s.get?_erase d l hd
  have hnext := s.get?_erase d (l ++ [n]) hd
  grind [step]

/-- A step that gets somewhere without an entry gets there with it. -/
theorem step_of_erase {d l : Location} (hd : d ≠ []) {n : String} {r : Step}
    (hr : (s.erase d).step l n = r) (hne : r ≠ .missing) (hfail : ∀ e, r ≠ .failed e) :
    s.step l n = r := by
  have hsame := s.get?_erase d l hd
  have hnext := s.get?_erase d (l ++ [n]) hd
  grind [step]

/-- Names that lead to an entry where another one was taken away led to it before. -/
theorem Leads.of_erase {k : Nat} {l r d : Location} {names : List String} {e : Entry}
    (h : (s.erase d).Leads follow k l names r) (hr : (s.erase d).get? r = some e) (hd : d ≠ []) :
    s.Leads follow k l names r := by
  induction h with
  | here l => exact .here l
  | move hs _ ih => exact .move (step_of_erase hd hs (by simp) (by simp)) (ih hr)
  | pass hs hf _ ih => exact .pass (step_of_erase hd hs (by simp) (by simp)) hf (ih hr)
  | stay hs hf => exact .stay (step_of_erase hd hs (by simp) (by simp)) hf
  | vacant hs =>
    rw [get?_of_step_missing hs] at hr
    cases hr

/-- **A path to a file survives an entry taken away that goes to another file.** -/
theorem Leads.erase {k : Nat} {l r d q : Location} {names : List String} {b c : List UInt8}
    {e : Entry} (h : s.Leads true k l names r) (hr : s.get? r = some (.file b)) (hd : d ≠ [])
    (he : s.get? d = some e) (hdir : e ≠ .dir) (hg : s.GoesTo d q) (hq : s.get? q = some (.file c))
    (hne : q ≠ r) : (s.erase d).Leads true k l names r := by
  -- a step is taken from a directory, so never from the entry taken away
  have hfrom : ∀ {l n}, (∀ e, s.step l n ≠ .failed e) → l ≠ d := by
    rintro l n hs rfl
    obtain ⟨e, he'⟩ := exists_step_eq_failed (l := l) (n := n) (by rw [he]; simpa using hdir)
    exact hs e he'
  induction h with
  | here l => exact .here l
  | @move k l m r n rest hs hl ih =>
    rcases step_erase hd (hfrom (by rw [hs]; simp)) n with hsame | ⟨hdn, hcase⟩
    · exact .move (hsame.trans hs) (ih hr hne)
    · -- the walk comes to the entry itself, which is then the file that it leads to
      have hm : m = d := by grind
      subst hm
      cases hl with
      | here => grind [GoesTo]
      | move hs' _ => exact absurd rfl (hfrom (by rw [hs']; simp))
      | pass hs' _ _ => exact absurd rfl (hfrom (by rw [hs']; simp))
      | stay hs' _ => exact absurd rfl (hfrom (by rw [hs']; simp))
      | vacant hs' => exact absurd rfl (hfrom (by rw [hs']; simp))
  | @pass k l r n target rest hs hf hl ih =>
    rcases step_erase hd (hfrom (by rw [hs]; simp)) n with hsame | ⟨hdn, _⟩
    · exact .pass (hsame.trans hs) hf (ih hr hne)
    · -- the walk follows the entry, a link, which leads to its own file and no further
      have ht := get?_of_step_link hs
      rw [hdn] at ht
      obtain rfl | ⟨target', m, ht', hq'⟩ := hg
      · rw [ht] at hq; cases hq
      · rw [ht] at ht'
        cases ht'
        rw [← hdn, List.dropLast_concat] at hq'
        cases rest with
        | nil =>
          rw [List.append_nil] at hl
          exact absurd (hq'.unique hl) hne
        | cons x rest => exact absurd hl (hq'.not_past_file hq (List.cons_ne_nil x rest))
  | stay _ hf => cases hf
  | vacant hs =>
    rw [get?_of_step_missing hs] at hr
    cases hr

end Store

end Handout
