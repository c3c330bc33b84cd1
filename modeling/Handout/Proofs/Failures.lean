import Mathlib.Data.List.Lex
import Handout.Proofs.Walks

/-!
# Which failure stops a discovery

Of the calls that a walk comes to, some may fail (`Discovery.Fails`). What a part of a walk fails for
is told by its own parts, one law for each way that it can go (`fails_cons` and the others).

A walk that is stopped is stopped by the failure whose path comes first, name by name
(`Discovery.FirstFailure`): a directory is listed before what is in it is asked about, and everything
below one name is done before the next name. No other failure is on the same path, or below it, since
what is there is only come to where the call does not fail. A walk that is not stopped meets no failure
(`Goes.tells`), so nothing stops a walk exactly where it meets none (`undisturbed_iff`).

Since a walk makes no call on a path that an ignored name is part of, what would fail there does not
matter (`discover_fails_first`).
-/

namespace Handout

open Act

theorem Path.join_below (base p : Path) (ns : List String) :
    base.join (p.below ns) = (base.join p).below ns := by
  rw [join, join]
  change (if p.isAbsolute then p.below ns else _) = _
  split
  · rfl
  · exact congrArg (Path.mk _) (List.append_assoc _ _ _).symm

namespace Discovery

variable {w : World} {sel : Selection} {p q root : Path} {n m : String}
  {names ns ms : List String} {cs : List Call} {c : Call} {f g : Failure}
  {r : Except Failure (List Path)} {t : Task}

/-! ## The failures that a walk can meet -/

/-- **A call that a part of a walk comes to fails.** -/
def Fails (w : World) (sel : Selection) (t : Task) (f : Failure) : Prop :=
  ∃ c, Due w sel t c ∧ w.failure? c = some f

theorem fails_of_unlisted (h : w.failure? (.list p) = some f) :
    Fails w sel (.directory p) g ↔ f = g := by
  constructor
  · rintro ⟨c, hc, hg⟩
    cases hc with
    | list => exact Option.some.inj (h.symm.trans hg)
    | within hl => rw [failure?_list_of_ok hl] at h; cases h
  · rintro rfl
    exact ⟨_, .list p, h⟩

theorem fails_of_listed (h : (w.answer (.list p)).1 = .ok names) :
    Fails w sel (.directory p) f ↔ Fails w sel (.entries p (sorted names)) f := by
  constructor
  · rintro ⟨c, hc, hf⟩
    cases hc with
    | list => rw [failure?_list_of_ok h] at hf; cases hf
    | within hl hc =>
      obtain rfl := Except.ok.inj (h.symm.trans hl)
      exact ⟨c, hc, hf⟩
  · rintro ⟨c, hc, hf⟩
    exact ⟨c, .within h hc, hf⟩

theorem not_fails_nil : ¬ Fails w sel (.entries p []) f := by
  rintro ⟨c, hc, -⟩
  cases hc with
  | among hn => cases hn

theorem fails_cons :
    Fails w sel (.entries p (n :: names)) f ↔
      (n ∉ sel.ignored ∧ Fails w sel (.entry (p.child n)) f) ∨ Fails w sel (.entries p names) f := by
  simp only [Fails, due_cons, or_and_right, exists_or, and_assoc, exists_and_left]

theorem fails_of_unknown (h : w.failure? (.isDirectory q) = some f) :
    Fails w sel (.entry q) g ↔ f = g := by
  constructor
  · rintro ⟨c, hc, hg⟩
    cases hc with
    | stat => exact Option.some.inj (h.symm.trans hg)
    | file hd => rw [failure?_isDirectory_of_ok hd] at h; cases h
    | inside hd => rw [failure?_isDirectory_of_ok hd] at h; cases h
  · rintro rfl
    exact ⟨_, .stat q, h⟩

theorem fails_of_inside (h : (w.answer (.isDirectory q)).1 = .ok true) :
    Fails w sel (.entry q) f ↔ Fails w sel (.directory q) f := by
  constructor
  · rintro ⟨c, hc, hf⟩
    cases hc with
    | stat => rw [failure?_isDirectory_of_ok h] at hf; cases hf
    | file => cases hf
    | inside _ hc => exact ⟨c, hc, hf⟩
  · rintro ⟨c, hc, hf⟩
    exact ⟨c, .inside h hc, hf⟩

theorem not_fails_of_outside (h : (w.answer (.isDirectory q)).1 = .ok false) :
    ¬ Fails w sel (.entry q) f := by
  rintro ⟨c, hc, hf⟩
  cases hc with
  | stat => rw [failure?_isDirectory_of_ok h] at hf; cases hf
  | file => cases hf
  | inside hd => rw [h] at hd; cases hd

/-- A failure that an entry can meet is on its path or below it. -/
theorem Fails.exists_below (h : Fails w sel t f) : ∃ ns, f.path = t.path.below ns := by
  obtain ⟨c, hc, hf⟩ := h
  obtain ⟨ns, -, rfl | rfl | rfl⟩ := hc.exists_below
  · rw [World.failure?] at hf
    split at hf
    · cases hf
      exact ⟨ns, rfl⟩
    · cases hf
  · rw [World.failure?] at hf
    split at hf
    · cases hf
      exact ⟨ns, rfl⟩
    · cases hf
  · cases hf

/-- A failure among entries is on the path of one of them or below it. -/
theorem Fails.exists_name (h : Fails w sel (.entries p names) f) :
    ∃ m ∈ names, ∃ ns, f.path = (p.child m).below ns := by
  induction names with
  | nil => exact absurd h not_fails_nil
  | cons n names ih =>
    rcases fails_cons.mp h with ⟨-, h⟩ | h
    · exact ⟨n, .head _, h.exists_below⟩
    · obtain ⟨m, hm, hns⟩ := ih h
      exact ⟨m, .tail _ hm, hns⟩

/-! ## The first of them -/

/-- The path of one failure comes before that of another in the order of a walk. -/
def Before (f g : Failure) : Prop :=
  List.Lex (· < ·) f.path.parts g.path.parts

/-- **The first failure that a part of a walk meets.** -/
structure FirstFailure (w : World) (sel : Selection) (t : Task) (f : Failure) : Prop where
  fails : Fails w sel t f
  first : ∀ {g}, Fails w sel t g → f = g ∨ Before f g

theorem FirstFailure.unique (hf : FirstFailure w sel t f) (hg : FirstFailure w sel t g) : f = g := by
  rcases hf.first hg.fails with hfg | hfg
  · exact hfg
  · rcases hg.first hf.fails with hgf | hgf
    · exact hgf.symm
    · exact absurd hgf (List.lex_asymm String.lt_asymm hfg)

theorem FirstFailure.congr {t' : Task} (h : FirstFailure w sel t f)
    (hsame : ∀ g, Fails w sel t' g ↔ Fails w sel t g) : FirstFailure w sel t' f :=
  ⟨(hsame f).mpr h.fails, fun hg => h.first ((hsame _).mp hg)⟩

theorem firstFailure_of_only (h : ∀ g, Fails w sel t g ↔ f = g) : FirstFailure w sel t f :=
  ⟨(h f).mpr rfl, fun hg => .inl ((h _).mp hg)⟩

theorem before_of_lt (hf : f.path = (p.child n).below ns) (hg : g.path = (p.child m).below ms)
    (h : n < m) : Before f g := by
  rw [Path.child_below] at hf hg
  rw [Before, hf, hg]
  exact List.Lex.append_left (· < ·) (.rel h) p.parts

/-- **What a walk comes to tells of its failures**: a walk that comes to its end meets none, and one
that is stopped is stopped by the first. -/
def Tells (w : World) (sel : Selection) (t : Task) : Except Failure (List Path) → Prop
  | .ok _ => ∀ f, ¬ Fails w sel t f
  | .error f => FirstFailure w sel t f

theorem Tells.congr {t' : Task} (h : Tells w sel t r)
    (hsame : ∀ g, Fails w sel t' g ↔ Fails w sel t g) : Tells w sel t' r := by
  cases r with
  | ok found => exact fun f hf => h f ((hsame f).mp hf)
  | error f => exact FirstFailure.congr h hsame

/-- Where names stand in order, and so do those of every directory. -/
def Task.Ordered : Task → Prop
  | .entries _ names => names.Pairwise (· < ·)
  | _ => True

theorem Goes.tells (h : Goes w sel t cs r) (ht : t.Ordered) : Tells w sel t r := by
  induction h with
  | unlisted hf => exact firstFailure_of_only fun g => fails_of_unlisted hf
  | @listed p _ _ _ hl _ ih =>
    obtain ⟨l, -, -, rfl⟩ := World.list_eq_ok.mp (World.unless?_eq_ok.mp hl).2
    exact (ih (sorted_pairwise (w.store.nodup_names l))).congr fun g => fails_of_listed hl
  | done => exact fun f => not_fails_nil
  | passed hk _ ih =>
    refine (ih (List.pairwise_cons.mp ht).2).congr fun g => ?_
    rw [fails_cons, or_iff_right fun h => h.1 hk]
  | @stopped p n names _ f hk _ ih =>
    have hfirst : FirstFailure w sel (.entry (p.child n)) f := ih trivial
    refine ⟨fails_cons.mpr (.inl ⟨hk, hfirst.fails⟩), fun {g} hg => ?_⟩
    rcases fails_cons.mp hg with ⟨-, hg⟩ | hg
    · exact hfirst.first hg
    · -- every later name stands after the one that the failure is below
      obtain ⟨ns, hf⟩ := hfirst.fails.exists_below
      obtain ⟨m, hm, ms, hg⟩ := hg.exists_name
      exact .inr (before_of_lt hf hg ((List.pairwise_cons.mp ht).1 m hm))
  | @seen p n names _ _ found r hk _ _ ihe ihr =>
    have hnone : ∀ f, ¬ Fails w sel (.entry (p.child n)) f := ihe trivial
    have hrest : Tells w sel (.entries p (n :: names)) r := by
      refine (ihr (List.pairwise_cons.mp ht).2).congr fun g => ?_
      rw [fails_cons, or_iff_right fun h => hnone g h.2]
    cases r <;> exact hrest
  | unknown hf => exact firstFailure_of_only fun g => fails_of_unknown hf
  | inside hd _ ih => exact (ih trivial).congr fun g => fails_of_inside hd
  | unwanted hd => exact fun f => not_fails_of_outside hd
  | wanted hd => exact fun f => not_fails_of_outside hd

/-- Every walk that paths limit goes as one without a limit, and tells of its failures. -/
theorem exists_goes (hnamed : w.store.Named) (sel : Selection) (root : Path) :
    ∃ cs r, Goes w sel (.directory root) cs r ∧
      Takes w (walk sel World.mostPathBytes root) cs r ∧ Tells w sel (.directory root) r := by
  have hshallow : Shallow w sel World.mostPathBytes root := shallow_of_path hnamed (Nat.le_refl _)
  obtain ⟨cs, r, hgoes, htakes, -⟩ := ends_walk hshallow
  exact ⟨cs, r, hgoes, htakes, hgoes.tells trivial⟩

/-- A walk that meets failures meets one of them first. -/
theorem exists_firstFailure_iff (hnamed : w.store.Named) :
    (∃ f, FirstFailure w sel (.directory root) f) ↔ ∃ f, Fails w sel (.directory root) f := by
  constructor
  · rintro ⟨f, hfirst⟩
    exact ⟨f, hfirst.fails⟩
  · rintro ⟨f, hf⟩
    obtain ⟨cs, r, -, -, htells⟩ := exists_goes hnamed sel root
    cases r with
    | ok found => exact absurd hf (htells f)
    | error g => exact ⟨g, htells⟩

/-! ## Walks that nothing stops -/

/-- What a walk comes to in a directory that it lists, it comes to. -/
theorem Due.trans (h : Due w sel t (.list p)) (hc : Due w sel (.directory p) c) : Due w sel t c := by
  generalize hp : Call.list p = d at h
  induction h with
  | list => cases hp; exact hc
  | within hl _ ih => exact .within hl (ih hp)
  | among hn hk _ ih => exact .among hn hk (ih hp)
  | stat => cases hp
  | file => cases hp
  | inside hd _ ih => exact .inside hd (ih hp)

theorem Visited.due (h : Visited w sel root p) : Due w sel (.directory root) (.list p) := by
  induction h with
  | start => exact .list root
  | child _ hlist hn hk hd ih =>
    exact ih.trans (.within hlist (.among (List.mem_mergeSort.mpr hn) hk (.inside hd (.list _))))

/-- **Nothing stops a walk** exactly where it meets no failure. -/
theorem undisturbed_iff (hnamed : w.store.Named) :
    Undisturbed w sel root ↔ ∀ f, ¬ Fails w sel (.directory root) f := by
  constructor
  · intro hcalm
    have hstart : Visited w sel root (root.below []) := root.below_nil.symm ▸ .start
    obtain ⟨found, hwalk⟩ := exec_walk_of_undisturbed hnamed hcalm hstart (fun n hn => nomatch hn)
      (Nat.le_add_left World.mostPathBytes _)
    obtain ⟨cs, r, -, htakes, htells⟩ := exists_goes hnamed sel root
    rw [Path.below_nil] at hwalk
    have hr := (htakes Session.start).2.symm.trans (hwalk _)
    obtain ⟨_, rfl⟩ : ∃ found, r = .ok found :=
      ⟨found, Except.mapError_eq_ok.mp (Prod.mk.inj hr).1⟩
    exact htells
  · intro hnone
    refine ⟨fun {p} hp => ?_, fun {p names n} hp hlist hn hk => ?_⟩
    · rcases hl : (w.answer (.list p)).1 with e | names
      · exact absurd ⟨_, hp.due, by rw [World.failure?, hl]⟩ (hnone ⟨p, .list, e.reason⟩)
      · exact ⟨names, rfl⟩
    · have hdue : Due w sel (.directory root) (.isDirectory (p.child n)) :=
        hp.due.trans (.within hlist (.among (List.mem_mergeSort.mpr hn) hk (.stat _)))
      rcases hd : (w.answer (.isDirectory (p.child n))).1 with e | b
      · exact absurd ⟨_, hdue, by rw [World.failure?, hd]⟩ (hnone ⟨p.child n, .stat, e.reason⟩)
      · exact ⟨b, rfl⟩

/-! ## What is passed over -/

/-- **Faults that a walk passes over**: with them in place of its own, a world gives other answers only
to listings of, and questions about, paths below the root that an ignored name is part of. -/
def PassedOver (w : World) (sel : Selection) (root : Path) (faults : List World.Fault) : Prop :=
  ∀ c p, ({ w with faults := faults } : World).fault? c p ≠ w.fault? c p →
    (c = .list ∨ c = .stat) ∧
      ∃ ns n, n ∈ ns ∧ n ∈ sel.ignored ∧ w.here.join p = w.here.join (root.below ns)

variable {faults : List World.Fault}

/-- Faults that are added on such paths are passed over. -/
theorem passedOver_append (h : ∀ x ∈ faults, (x.call = .list ∨ x.call = .stat) ∧
    ∃ ns n, n ∈ ns ∧ n ∈ sel.ignored ∧ x.path = w.here.join (root.below ns)) :
    PassedOver w sel root (faults ++ w.faults) := by
  intro c p hne
  rw [World.fault?, World.fault?, List.find?_append] at hne
  cases hx : faults.find? fun f => f.call = c ∧ f.path = w.here.join p with
  | none =>
    refine absurd ?_ hne
    rw [World.here] at hx ⊢
    rw [hx, Option.none_or]
    rfl
  | some x =>
    have hmatch := List.find?_some hx
    obtain ⟨rfl, hpath⟩ : x.call = c ∧ x.path = w.here.join p := of_decide_eq_true hmatch
    rw [← hpath]
    exact h x (List.mem_of_find?_eq_some hx)

theorem PassedOver.fault?_below (h : PassedOver w sel root faults)
    (hns : ∀ n ∈ ns, n ∉ sel.ignored) (c : FileCall) :
    ({ w with faults := faults } : World).fault? c (root.below ns) = w.fault? c (root.below ns) := by
  apply Decidable.byContradiction
  intro hne
  obtain ⟨-, ms, n, hn, hk, hsame⟩ := h _ _ hne
  rw [Path.join_below, Path.join_below] at hsame
  obtain rfl := (w.here.join root).below_injective hsame
  exact hns n hn hk

theorem PassedOver.answer_due (h : PassedOver w sel root faults)
    (hc : Due w sel (.directory root) c) :
    c.Looks ∧ (({ w with faults := faults } : World).answer c).1 = (w.answer c).1 := by
  obtain ⟨ns, hns, hc⟩ := hc.exists_below
  rw [Task.path] at hc
  rcases hc with rfl | rfl | rfl
  · refine ⟨trivial, ?_⟩
    change World.unless? _ _ _ _ = World.unless? _ _ _ _
    rw [World.unless?, World.unless?, h.fault?_below hns]
    rfl
  · refine ⟨trivial, ?_⟩
    change World.unless? _ _ _ _ = World.unless? _ _ _ _
    rw [World.unless?, World.unless?, h.fault?_below hns]
    rfl
  · exact ⟨trivial, rfl⟩

theorem PassedOver.answer_loads (h : PassedOver w sel root faults) (hc : c.Loads) :
    c.Looks ∧ (({ w with faults := faults } : World).answer c).1 = (w.answer c).1 := by
  refine ⟨hc.looks, ?_⟩
  cases c with
  | environment | present => rfl
  | read p =>
    have hfault : ({ w with faults := faults } : World).fault? .read p = w.fault? .read p := by
      apply Decidable.byContradiction
      intro hne
      rcases (h _ _ hne).1 with hread | hread <;> cases hread
    change World.unless? _ _ _ _ = World.unless? _ _ _ _
    rw [World.unless?, World.unless?, hfault]
    rfl
  | _ => exact hc.elim

/-! ## Discoveries -/

variable {st : Settings} {s s₁ : Session} {extensions ignored : Option (List String)}

/-- A discovery whose settings can be loaded comes to what its walk comes to. -/
theorem discover_comes_to (hload : Config.settings.exec s w = (.ok st, s₁, w))
    (hwalk : (walk (wanted st extensions ignored) World.mostPathBytes root).exec s₁ w =
      (r.mapError .failure, s₁, w)) :
    ((discover root extensions ignored).exec s w).1 = r.mapError .failure := by
  rw [discover, exec_bind, hload]
  change ((walk (wanted st extensions ignored) World.mostPathBytes root >>= _).exec s₁ w).1 = _
  rw [exec_bind, hwalk]
  cases r with
  | error f => rfl
  | ok found =>
    obtain ⟨t, u, hevent, -⟩ := Log.exec_event logger .debug "discovery_completed"
      [("root", .text root.text), ("count", .int found.length)] s₁ w
    change ((Log.event _ _ _ _ >>= _).exec s₁ w).1 = _
    rw [exec_bind, hevent]
    rfl

/-- A discovery whose settings can be loaded comes to what a walk without a limit comes to. -/
theorem exists_discover_comes_to (hnamed : w.store.Named)
    (hload : Config.settings.exec s w = (.ok st, s₁, w)) :
    ∃ cs r, Goes w (wanted st extensions ignored) (.directory root) cs r ∧
      Takes w (walk (wanted st extensions ignored) World.mostPathBytes root) cs r ∧
      ((discover root extensions ignored).exec s w).1 = r.mapError .failure := by
  obtain ⟨cs, r, hgoes, htakes, -⟩ := exists_goes hnamed (wanted st extensions ignored) root
  exact ⟨cs, r, hgoes, htakes, discover_comes_to hload (htakes s₁).2⟩

theorem discover_eq_failure_iff (hnamed : w.store.Named)
    (hload : Config.settings.exec s w = (.ok st, s₁, w)) :
    ((discover root extensions ignored).exec s w).1 = .error (.failure f) ↔
      FirstFailure w (wanted st extensions ignored) (.directory root) f := by
  obtain ⟨cs, r, hgoes, -, hresult⟩ := exists_discover_comes_to hnamed hload
  have htells := hgoes.tells trivial
  rw [hresult]
  cases r with
  | ok found => exact ⟨nofun, fun hfirst => absurd hfirst.fails (htells f)⟩
  | error g =>
    constructor
    · intro h
      cases h
      exact htells
    · intro hfirst
      rw [hfirst.unique htells]
      rfl

/-- Faults that are passed over leave a discovery at what it comes to. -/
theorem PassedOver.discover_eq (h : PassedOver w (wanted st extensions ignored) root faults)
    (hnamed : w.store.Named) (hload : Config.settings.exec s w = (.ok st, s₁, w)) :
    ((discover root extensions ignored).exec s { w with faults := faults }).1 =
      ((discover root extensions ignored).exec s w).1 := by
  obtain ⟨cs, r, hgoes, htakes, hresult⟩ := exists_discover_comes_to hnamed hload
  have hload' := exec_congr fun c hc => h.answer_loads (Config.loads_settings s w c hc)
  have hwalk' := exec_congr fun c hc => h.answer_due (hgoes.due ((htakes s₁).1 ▸ hc))
  rw [hload] at hload'
  rw [(htakes s₁).2] at hwalk'
  exact (discover_comes_to hload' hwalk').trans hresult.symm

/-- **A discovery fails for the first failure that its walk meets**, where its settings can be loaded,
and it fails exactly where something stops the walk; what would fail on a path that an ignored name is
part of does not matter. -/
theorem discover_fails_first (hnamed : w.store.Named) (root : Path)
    (extensions ignored : Option (List String)) (s : Session) :
    (∀ f, ((discover root extensions ignored).exec s w).1 = .error (.failure f) ↔
      ∃ st s₁, Config.settings.exec s w = (.ok st, s₁, w) ∧
        FirstFailure w (wanted st extensions ignored) (.directory root) f) ∧
    ∀ st s₁, Config.settings.exec s w = (.ok st, s₁, w) →
      ((∃ f, ((discover root extensions ignored).exec s w).1 = .error (.failure f)) ↔
        ¬ Undisturbed w (wanted st extensions ignored) root) ∧
      ∀ faults, PassedOver w (wanted st extensions ignored) root faults →
        ((discover root extensions ignored).exec s { w with faults := faults }).1 =
          ((discover root extensions ignored).exec s w).1 := by
  refine ⟨fun f => ⟨fun h => ?_, ?_⟩, fun st s₁ hload => ⟨?_, fun faults hfaults => ?_⟩⟩
  · rcases hset : Config.settings.exec s w with ⟨e | st, s₁, w₁⟩
    · -- settings that cannot be loaded stop a discovery for another cause
      rw [discover, exec_bind, hset] at h
      exact absurd (Except.error.inj h) (Config.confined_settings.stopped hset f)
    · obtain rfl : w = w₁ := Config.confined_settings.moved hset
      exact ⟨st, s₁, rfl, (discover_eq_failure_iff hnamed hset).mp h⟩
  · rintro ⟨st, s₁, hload, hfirst⟩
    exact (discover_eq_failure_iff hnamed hload).mpr hfirst
  · rw [undisturbed_iff hnamed, not_forall_not, ← exists_firstFailure_iff hnamed]
    exact exists_congr fun f => discover_eq_failure_iff hnamed hload
  · exact hfaults.discover_eq hnamed hload

open Run (plain loaded top)

/-- A directory, a file after it and an ignored directory. -/
def orchard : Store :=
  ⟨[(["a"], .dir), (["a", "x.js"], .file []), (["b.js"], .file []), (["node_modules"], .dir),
    (["node_modules", "y.js"], .file [])], by decide⟩

/-- The orchard, where the directory cannot be listed and nothing is told of the file. -/
def barred : World :=
  { plain orchard with faults := [⟨.stat, top "b.js", .inputOutput⟩, ⟨.list, top "a", .denied⟩] }

/-- More faults, on what is ignored. -/
def overgrown : List World.Fault :=
  [⟨.stat, top "node_modules", .denied⟩, ⟨.list, top "node_modules", .denied⟩]

theorem goes_barred :
    Goes barred (wanted .standard none none) (.directory ⟨.root, []⟩)
      [.list ⟨.root, []⟩, .isDirectory (top "a"), .list (top "a")]
      (.error ⟨top "a", .list, OsError.denied.reason⟩) := by
  have hroot : (barred.answer (.list ⟨.root, []⟩)).1 = .ok ["a", "b.js", "node_modules"] := by
    decide
  have hdir : (barred.answer (.isDirectory (top "a"))).1 = .ok true := by decide
  have horder : sorted ["a", "b.js", "node_modules"] = ["a", "b.js", "node_modules"] :=
    sorted_of_pairwise (by decide)
  refine .listed hroot ?_
  rw [horder]
  exact .stopped (by decide) (.inside hdir (.unlisted (by decide)))

/-- A fault that comes first and a later one stop a discovery for the first, whatever else would fail
among what is ignored. -/
theorem discover_fails_first_barred :
    ((discover ⟨.root, []⟩ none none).exec (loaded .standard)
        { barred with faults := overgrown ++ barred.faults }).1 =
      .error (.failure ⟨top "a", .list, "Permission denied"⟩) := by
  have hload : Config.settings.exec (loaded .standard) barred =
      (.ok .standard, loaded .standard, barred) := rfl
  have hnamed : barred.store.Named := by decide
  obtain ⟨hfirst, hrest⟩ := discover_fails_first hnamed ⟨.root, []⟩ none none (loaded .standard)
  have hpassed : PassedOver barred (wanted .standard none none) ⟨.root, []⟩
      (overgrown ++ barred.faults) := by
    refine passedOver_append fun x hx => ?_
    simp only [overgrown, List.mem_cons, List.not_mem_nil, or_false] at hx
    rcases hx with rfl | rfl
    · exact ⟨.inr rfl, ["node_modules"], "node_modules", .head _, by decide, rfl⟩
    · exact ⟨.inl rfl, ["node_modules"], "node_modules", .head _, by decide, rfl⟩
  rw [(hrest _ _ hload).2 _ hpassed]
  exact (hfirst _).mpr ⟨_, _, hload, goes_barred.tells trivial⟩

end Discovery

end Handout
