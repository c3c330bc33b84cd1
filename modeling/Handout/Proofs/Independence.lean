import Mathlib
import Handout.Proofs.Frame
import Handout.Proofs.Loading
import Handout.Proofs.Sight

/-!
# Runs under settings that are given

Settings that a run is given should be the only ones that it goes by. It sets logging up all the same,
and for that the settings of the machine are loaded: what stops that stops the run. Where logging is
set up, and out of sight, nothing else of the machine's settings matters
(`given_settings_decide_after_set_up`): two runs with the same given settings, in worlds that agree
but for the environment and for what is out of sight, come to the same result and leave worlds that
agree again.

An act is **blind** to what two worlds differ in when it comes to the same result from both
(`Act.Blind`), and acts in a row are blind when each of them is. A walk is blind to what no path below
its root comes to, and so is the processing of the files that it finds.

**What it does not establish.** A log file in sight is written as the settings of the machine say.
-/

namespace Handout

/-! ## Blind acts -/

namespace Act

variable {α β : Type} {R : World → World → Prop} {P : α → Prop} {Q : β → Prop} {x : Act α}
  {f : α → Act β}

/-- **An act is blind to a difference of worlds**: from two that differ so, in whatever sessions, it
comes to the same result or stops for the same cause, and leaves two that differ so. The results are
of some kind. -/
def Blind (R : World → World → Prop) (P : α → Prop) (x : Act α) : Prop :=
  ∀ s t w u, R w u → (x.exec s w).1 = (x.exec t u).1 ∧ R (x.exec s w).2.2 (x.exec t u).2.2 ∧
    ∀ a, (x.exec s w).1 = .ok a → P a

theorem blind_pure {a : α} (ha : P a) : Blind R P (pure a) :=
  fun _ _ _ _ h => ⟨rfl, h, fun _ hr => Except.ok.inj hr ▸ ha⟩

theorem blind_throw (e : Stop) : Blind R P (throw e : Act α) :=
  fun _ _ _ _ h => ⟨rfl, h, fun _ hr => nomatch hr⟩

theorem Blind.bind (hx : Blind R P x) (hf : ∀ a, P a → Blind R Q (f a)) : Blind R Q (x >>= f) := by
  intro s t w u h
  obtain ⟨hresult, hworlds, hkind⟩ := hx s t w u h
  rw [exec_bind, exec_bind]
  rcases hs : x.exec s w with ⟨r, s', w'⟩
  rcases ht : x.exec t u with ⟨r', t', u'⟩
  rw [hs, ht] at hresult hworlds
  rw [hs] at hkind
  obtain rfl : r = r' := hresult
  cases r with
  | error e => exact ⟨rfl, hworlds, fun _ hr => nomatch hr⟩
  | ok a => exact hf a (hkind a rfl) s' t' w' u' hworlds

/-- A call that changes nothing, with one answer in both worlds. -/
theorem blind_call {c : Call} (hsame : ∀ w : World, (w.answer c).2 = w)
    (h : ∀ {w u : World}, R w u → (w.answer c).1 = (u.answer c).1) :
    Blind R (fun _ => True) (call c) := by
  intro s t w u hR
  rw [exec_call, exec_call, hsame, hsame]
  exact ⟨congrArg Except.ok (h hR), hR, fun _ _ => trivial⟩

/-- An act whose events carry some fields is as blind as without them. -/
theorem Blind.within (hx : Blind R P x) (fields : Fields) : Blind R P (Log.within fields x) := by
  intro s t w u h
  rw [Log.exec_within, Log.exec_within]
  exact hx _ _ w u h

end Act

/-! ## The difference that a run is blind to -/

/-- A path below a root, by names of entries. -/
def Path.InTree (root p : Path) : Prop :=
  ∃ ns, (∀ n ∈ ns, Store.IsName n) ∧ p = root.below ns

/-- Paths that are all below a root. -/
def Path.AllInTree (root : Path) (found : List Path) : Prop :=
  ∀ p ∈ found, root.InTree p

theorem Path.inTree_self (root : Path) : root.InTree root :=
  ⟨[], (fun _ h => nomatch h), root.below_nil.symm⟩

theorem Path.InTree.child {root p : Path} (h : root.InTree p) {n : String} (hn : Store.IsName n) :
    root.InTree (p.child n) := by
  obtain ⟨ns, hns, rfl⟩ := h
  refine ⟨ns ++ [n], fun m hm => ?_, (root.below_concat ns n).symm⟩
  rcases List.mem_append.mp hm with hm | hm
  · exact hns m hm
  · exact List.mem_singleton.mp hm ▸ hn

namespace World

variable {H : Location → Prop} {root : Path} {u v w : World} {l : Location}

/-- **Some locations are out of sight from a root**: paths below it are clear of them, what is in
sight stands under names of entries, and a log file is one of them. -/
structure OutOfSight (H : Location → Prop) (root : Path) (w : World) : Prop where
  clear : ∀ {p}, root.InTree p → w.ClearOf H p
  named : ∀ l n, ¬ H (l ++ [n]) → n ∈ w.store.names l → Store.IsName n
  log : ∀ l, w.log = some l → H l

theorem OutOfSight.of_sameOff (h : w.OutOfSight H root) (hv : w.SameOff H v)
    (hlog : ∀ l, v.log = some l → H l) : v.OutOfSight H root := by
  refine ⟨fun hp => (h.clear hp).of_sameOff hv, fun l n hn hmem => h.named l n hn ?_, hlog⟩
  rwa [Store.mem_names, ← hv.store _ hn, ← Store.mem_names]

theorem OutOfSight.handled (h : w.OutOfSight H root) (hv : w.Handled l v) : v.OutOfSight H root := by
  refine ⟨fun hp => (h.clear hp).handled hv, fun l n hn hmem => h.named l n hn ?_, ?_⟩
  · rw [Store.mem_names, Option.isSome_iff_ne_none] at hmem ⊢
    exact fun hnone => hmem (hv.get?_eq_none hnone)
  · cases hv with
    | written _ _ => exact h.log
    | deleted _ _ _ _ => exact fun m hm => h.log m (Option.filter_eq_some_iff.mp hm).1

/-- Worlds that agree off what is out of sight from a root. -/
structure Twins (H : Location → Prop) (root : Path) (w u : World) : Prop where
  same : w.SameOff H u
  left : w.OutOfSight H root
  right : u.OutOfSight H root

theorem Twins.noted {w' u' : World} (h : Twins H root w u) (hw : w.Noted w') (hu : u.Noted u') :
    Twins H root w' u' where
  same := ((hw.sameOff h.left.log).symm.trans h.same).trans (hu.sameOff h.right.log)
  left := h.left.of_sameOff (hw.sameOff h.left.log) fun l hl => h.left.log l (hw.fixed.2.2 ▸ hl)
  right := h.right.of_sameOff (hu.sameOff h.right.log) fun l hl => h.right.log l (hu.fixed.2.2 ▸ hl)

/-- Worlds stay twins when a file is handled in one of them and the same is done in the other. -/
theorem Twins.handled {w' u' : World} (h : Twins H root w u) (hw : w.Handled l w')
    (hu : w'.SameOff H u') (hlog : ∀ m, u'.log = some m → u.log = some m) : Twins H root w' u' where
  same := hu
  left := h.left.handled hw
  right := (h.left.handled hw).of_sameOff hu fun m hm => h.right.log m (hlog m hm)

end World

/-- **A world made ready for logging out of sight**: nothing in sight changed, and a log file is out
of sight. -/
structure World.ReadiedOff (H : Location → Prop) (w v : World) : Prop where
  same : w.SameOff H v
  log : ∀ l, v.log = some l → H l

open Act World

variable {H : Location → Prop} {root p : Path} {w u : World}

/-- Events are dropped or recorded out of sight. -/
theorem Log.blind_event (logger : String) (severity : Severity) (name : String) (fields : Fields) :
    Blind (Twins H root) (fun _ => True) (event logger severity name fields) := by
  intro s t w u h
  obtain ⟨s', w', hs, hw⟩ := exec_event logger severity name fields s w
  obtain ⟨t', u', ht, hu⟩ := exec_event logger severity name fields t u
  rw [hs, ht]
  exact ⟨rfl, h.noted hw hu, fun _ _ => trivial⟩

/-! ## The walk -/

namespace Discovery

variable {sel : Selection} {descend : Path → Act (List Path)} {names ns ms : List String}

theorem blind_isDirectory (hp : root.InTree p) :
    Blind (Twins H root) (fun _ => True) (call (.isDirectory p)) := by
  refine blind_call (fun _ => rfl) fun {w u} h => ?_
  change w.unless? _ _ _ = u.unless? _ _ _
  rw [h.same.unless?, (h.left.clear hp).holds h.same]

theorem blind_isFile (hp : root.InTree p) :
    Blind (Twins H root) (fun _ => True) (call (.isFile p)) := by
  refine blind_call (fun _ => rfl) fun {w u} h => ?_
  change (w.holds _ _).toOption.getD false = (u.holds _ _).toOption.getD false
  rw [(h.left.clear hp).holds h.same]

theorem blind_visit (hp : root.InTree p)
    (hdescend : Blind (Twins H root) root.AllInTree (descend p)) :
    Blind (Twins H root) root.AllInTree (visit sel descend p) := by
  refine .bind (blind_isDirectory hp) fun r _ => ?_
  match r with
  | .error e => exact blind_throw _
  | .ok true => exact hdescend
  | .ok false =>
    have hnone : root.AllInTree [] := fun _ hq => nomatch hq
    simp only
    split
    · refine .bind (blind_isFile hp) fun r _ => ?_
      split
      · exact blind_pure fun q hq => List.mem_singleton.mp hq ▸ hp
      · exact blind_pure hnone
    · exact blind_pure hnone

theorem blind_visitAll (hp : root.InTree p) (hnames : ∀ n ∈ names, Store.IsName n)
    (hdescend : ∀ {q}, root.InTree q →
      Blind (Twins H root) root.AllInTree (descend q)) :
    Blind (Twins H root) root.AllInTree (visitAll sel descend p names) := by
  induction names with
  | nil => exact blind_pure fun _ hq => nomatch hq
  | cons n names ih =>
    obtain ⟨hn, hrest⟩ := List.forall_mem_cons.mp hnames
    rw [visitAll]
    split
    · exact ih hrest
    · have hchild := hp.child hn
      refine .bind (blind_visit hchild (hdescend hchild)) fun found hfound => ?_
      refine .bind (ih hrest) fun rest hrest => blind_pure fun q hq => ?_
      exact (List.mem_append.mp hq).elim (hfound q) (hrest q)

/-- Names in another order are the same once they are sorted. -/
theorem sorted_eq_of_perm (h : ns.Perm ms) (hns : ns.Nodup) : sorted ns = sorted ms := by
  have hperm : (sorted ns).Perm (sorted ms) :=
    ((List.mergeSort_perm ns _).trans h).trans (List.mergeSort_perm ms _).symm
  refine hperm.eq_of_pairwise ?_ (sorted_pairwise hns) (sorted_pairwise (h.nodup_iff.mp hns))
  exact fun a b _ _ hab hba => absurd hba (String.lt_asymm hab)

/-- **A walk is blind** to what is out of sight from its root, and finds paths below that. -/
theorem blind_walk (hp : root.InTree p) (depth : Nat) :
    Blind (Twins H root) root.AllInTree (walk sel depth p) := by
  induction depth generalizing p with
  | zero => exact blind_throw _
  | succ depth ih =>
    intro s t w u h
    rw [exec_walk, exec_walk]
    rcases (h.left.clear hp).answer_list h.same with ⟨e, hw, hu⟩ | ⟨l, hin, hw, hu, hperm⟩
    · rw [hw, hu]
      exact ⟨rfl, h, fun _ hr => nomatch hr⟩
    · rw [hw, hu]
      dsimp only
      -- the directory is the same, and its names come in another order
      rw [← sorted_eq_of_perm hperm (w.store.nodup_names l)]
      have hnames : ∀ n ∈ sorted (w.store.names l), Store.IsName n := fun n hn =>
        h.left.named l n (hin n) (List.mem_mergeSort.mp hn)
      exact blind_visitAll hp hnames ih s t w u h

end Discovery

/-! ## Processing -/

namespace Processing

variable {v : Variant} {encoding : String} {dryRun : Bool} {l : Location} {b : List UInt8}

/-- **A plan for a file is carried out alike** in both worlds. -/
theorem enact_twins (codec : Codec) (plan : Plan) (hp : root.InTree p) (h : Twins H root w u)
    (hfile : w.Holds p l b) :
    (enact w p codec plan).1 = (enact u p codec plan).1 ∧
      Twins H root (enact w p codec plan).2 (enact u p codec plan).2 := by
  have hclear := h.left.clear hp
  -- what the path names is in sight, so that the same is done to one location in both worlds
  cases plan with
  | delete =>
    obtain ⟨d, e, -, hd, hdir, hdoomed, hg⟩ := hfile.exists_doomed
    rw [enact, enact, h.same.unless?, hclear.doomed h.same, hdoomed, unless?]
    cases w.fault? .delete p with
    | some e => exact ⟨rfl, h⟩
    | none =>
      refine ⟨rfl, ?_⟩
      refine h.handled (.deleted hfile.file hd hdir hg) (h.same.erase (ne_nil_of_entry hd hdir)) ?_
      exact fun m hm => (Option.filter_eq_some_iff.mp hm).1
  | rewrite text =>
    rw [enact, enact, h.same.unless?, hclear.target h.same, hfile.target_eq, unless?]
    cases w.fault? .write p with
    | some e => exact ⟨rfl, h⟩
    | none =>
      refine ⟨rfl, ?_⟩
      exact h.handled (.written hfile.file _) (h.same.put (ne_nil_of_file hfile.file) _)
        fun _ hm => hm

variable [Codecs]

/-- **A file is processed alike** in both worlds. -/
theorem attempt_twins (hp : root.InTree p) (h : Twins H root w u) :
    (attempt w p v encoding dryRun).1 = (attempt u p v encoding dryRun).1 ∧
      Twins H root (attempt w p v encoding dryRun).2 (attempt u p v encoding dryRun).2 := by
  have htext : textOf u p encoding = textOf w p encoding :=
    textOf_congr (fault?_congr h.same.directory h.same.faults .read p)
      ((h.left.clear hp).read h.same)
  rw [attempt, attempt, htext]
  cases ht : textOf w p encoding with
  | error e => exact ⟨rfl, h⟩
  | ok a =>
    obtain ⟨codec, text⟩ := a
    obtain ⟨l, b, hfile, -⟩ := holds_of_textOf ht
    cases dryRun with
    | true => exact ⟨rfl, h⟩
    | false =>
      simp only [enactUnless, Bool.false_eq_true, if_false]
      obtain ⟨hresult, htwins⟩ := enact_twins codec (Plan.of v text) hp h hfile
      exact ⟨congrArg (Except.map _) hresult, htwins⟩

theorem blind_processFile (hp : root.InTree p) :
    Blind (Twins H root) (fun _ => True) (processFile p v (some encoding) dryRun) := by
  intro s t w u h
  have hw := comesTo_processFile w p v encoding dryRun s
  have hu := comesTo_processFile u p v encoding dryRun t
  obtain ⟨hresult, htwins⟩ := attempt_twins hp h
  rcases haw : attempt w p v encoding dryRun with ⟨r, w'⟩
  rcases hau : attempt u p v encoding dryRun with ⟨r', u'⟩
  rw [haw] at hw
  rw [hau] at hu
  rw [haw, hau] at hresult htwins
  obtain rfl : r = r' := hresult
  cases r with
  | error e =>
    change _ = _ at hw hu
    rw [hw, hu]
    exact ⟨rfl, htwins, fun _ hr => nomatch hr⟩
  | ok r =>
    obtain ⟨s', w'', hw, hnw⟩ := hw
    obtain ⟨t', u'', hu, hnu⟩ := hu
    rw [hw, hu]
    exact ⟨rfl, htwins.noted hnw hnu, fun _ _ => trivial⟩

theorem blind_processAll {paths : List Path} (hpaths : root.AllInTree paths) :
    Blind (Twins H root) (fun _ => True) (Run.processAll v encoding dryRun paths) := by
  induction paths with
  | nil => exact blind_pure trivial
  | cons p ps ih =>
    obtain ⟨hp, hps⟩ := List.forall_mem_cons.mp hpaths
    refine .bind (blind_processFile hp) fun r _ => ?_
    exact .bind (ih hps) fun rs _ => blind_pure trivial

end Processing

/-! ## A run -/

/-- What a discovery does once the settings are known. -/
def Discovery.search (root : Path) (sel : Selection) : Act (List Path) := do
  let found ← Discovery.walk sel mostPathBytes root
  Log.event Discovery.logger .debug "discovery_completed"
    [("root", .text root.text), ("count", .int found.length)]
  return found

theorem Discovery.blind_search (sel : Selection) :
    Blind (Twins H root) root.AllInTree (search root sel) := by
  refine .bind (blind_walk root.inTree_self _) fun found hfound => ?_
  exact .bind (Log.blind_event _ _ _ _) fun _ _ => blind_pure hfound

namespace Run

open Config (ofBytes readFile sharedName localName nothing standardDirectory directory override
  exec_readFile exec_readFile_of_absent exec_configuration exec_configuration_of_absent
  exec_settings_eq confined_settings)

variable {v : Variant} {settings : Settings} {dryRun : Bool} {s t : Session}

/-- What a run does once its settings are known and given. -/
def work [Codecs] (root : Path) (v : Variant) (settings : Settings) (dryRun : Bool) :
    Act RunReport := do
  let paths ← Discovery.search root ⟨settings.discovery.extensions, settings.discovery.ignoreNames⟩
  let results ← processAll v settings.processing.encoding dryRun paths
  let report : RunReport := ⟨root, v, dryRun, results⟩
  Log.event logger .info "run_completed" report.summary
  return report

/-- **The work of a run is blind** to what is out of sight. -/
theorem blind_work [Codecs] :
    Blind (Twins H root) (fun _ => True) (work root v settings dryRun) := by
  refine .bind (Discovery.blind_search _) fun paths hpaths => ?_
  refine .bind (Processing.blind_processAll hpaths) fun results _ => ?_
  exact .bind (Log.blind_event _ _ _ _) fun _ _ => blind_pure trivial

/-- Where settings are known, those that are given are the only ones that a run goes by. -/
theorem exec_body_of_known [Codecs] {st : Settings} (h : s.settings = some st) :
    (body root v settings dryRun).exec s w = (work root v settings dryRun).exec s w := by
  have hdiscover : ∀ es is, (discover root (some es) (some is)).exec s w =
      (Discovery.search root ⟨es, is⟩).exec s w := by
    intro es is
    rw [discover, exec_bind, Config.exec_settings_of_known h]
    rfl
  rw [body, work, exec_bind, exec_bind, hdiscover]

/-- A run stops where logging cannot be set up, whatever settings it is given. -/
theorem exec_run_of_refused [Codecs] {given : Option Settings} {e : Stop}
    (h : (Log.ensure none).exec s w = (.error e, t, u)) :
    (run root v given dryRun).exec s w = (.error e, t, u) := by
  rw [run_eq]
  exact exec_bind_eq_error.mpr (.inl h)

/-- Once logging is set up, a run does its work under the settings that it is given. -/
theorem exec_run_of_ensured [Codecs] (hstyle : s.logging.style = none)
    (h : (Log.ensure none).exec s w = (.ok (), t, u)) :
    (run root v (some settings) dryRun).exec s w =
      (Log.within (context root v) (work root v settings dryRun)).exec t u := by
  obtain ⟨st, hst⟩ := Log.exists_settings_of_ensure hstyle h
  rw [run_eq, exec_bind, h]
  simp only
  rw [exec_bind, known, exec_pure]
  simp only
  have hbody : (body root v settings dryRun).exec
      { t with context := Fields.merge t.context (context root v) } u =
        (work root v settings dryRun).exec
          { t with context := Fields.merge t.context (context root v) } u := exec_body_of_known hst
  rw [Log.exec_within, Log.exec_within, hbody]

/-- **Settings that are given decide a run once logging is set up.** A run from a program in which
logging is not set up stops where that cannot be done. In two worlds that agree off what is out of
sight from the root, and in each of which logging is set up out of sight, runs with the same settings
given come to the same result and leave worlds that agree so again, whatever the environments are. -/
theorem given_settings_decide_after_set_up [Codecs] (hstyle : s.logging.style = none)
    (hsame : w.SameOff H u)
    (hclear : ∀ {p}, root.InTree p → w.ClearOf H p) (hnamed : w.store.Named) (v : Variant)
    (settings : Settings) (dryRun : Bool) :
    (∀ {x x' : World} {t : Session} {e : Stop}, (Log.ensure none).exec s x = (.error e, t, x') →
      (run root v (some settings) dryRun).exec s x = (.error e, t, x')) ∧
    ∀ {w' u' : World} {t t' : Session}, (Log.ensure none).exec s w = (.ok (), t, w') →
      (Log.ensure none).exec s u = (.ok (), t', u') → w.ReadiedOff H w' → u.ReadiedOff H u' →
      ((run root v (some settings) dryRun).exec s w).1 =
          ((run root v (some settings) dryRun).exec s u).1 ∧
        ((run root v (some settings) dryRun).exec s w).2.2.SameOff H
          ((run root v (some settings) dryRun).exec s u).2.2 := by
  refine ⟨exec_run_of_refused, fun {w' u' t t'} hw hu hready hready' => ?_⟩
  have hleft : w'.OutOfSight H root := by
    refine ⟨fun hp => (hclear hp).of_sameOff hready.same, fun l n hn hmem => hnamed l n ?_,
      hready.log⟩
    rwa [Store.mem_names, ← hready.same.store _ hn, ← Store.mem_names]
  have hsame' : w'.SameOff H u' := (hready.same.symm.trans hsame).trans hready'.same
  have htwins : Twins H root w' u' := ⟨hsame', hleft, hleft.of_sameOff hsame' hready'.log⟩
  rw [exec_run_of_ensured hstyle hw, exec_run_of_ensured hstyle hu]
  obtain ⟨hresult, hworlds, -⟩ := blind_work.within (context root v) t t' w' u' htwins
  exact ⟨hresult, hworlds.same⟩

/-! ## A tree and the settings beside it -/

/-- A tree of one file. -/
def grove : Store :=
  ⟨[(["tree"], .dir), (["tree", "a.js"], .file "x\n".toUTF8.toList)], by decide⟩

/-- Settings of a machine. -/
def ownEncoding : String :=
  "\"processing\":\n  \"encoding\": \"ascii\"\n"

/-- That tree with settings beside it, and a variable. -/
def furnished : World :=
  plainUnder [("PROBLEMIFY_GENERAL__JSON_LOGS", "true")]
    ⟨[(["tree"], .dir), (["tree", "a.js"], .file "x\n".toUTF8.toList), (["config"], .dir),
      (["config", "settings.yaml"], .file ownEncoding.toUTF8.toList)], by decide⟩

/-- What the settings say. -/
def ownFields : Shared.Entries :=
  [(.text "processing", .map (some ⟨sharedName, 8⟩) [(.text "encoding", .ofData (.text "ascii"))])]

theorem ofBytes_ownEncoding : ofBytes sharedName ownEncoding.toUTF8.toList =
    .ok (.map (some ⟨sharedName, 12⟩) ownFields) := by
  cbv

/-- The settings that come out under the variable. -/
def ownSettings : Settings :=
  ⟨⟨"WARNING", none, true⟩, Settings.standard.discovery, ⟨"ascii"⟩⟩

theorem exec_settings_furnished :
    ∃ t, Config.settings.exec .start furnished = (.ok ownSettings, t, furnished) := by
  have hy : (readFile (Path.ofText standardDirectory) sharedName).exec .start furnished =
      (.ok (.map (some ⟨sharedName, 12⟩) ownFields), .start, furnished) :=
    (exec_readFile (by decide) (by decide +kernel)).trans
      (congrArg (·, Session.start, furnished) ofBytes_ownEncoding)
  have hm : (readFile (Path.ofText standardDirectory) localName).exec .start furnished =
      (.ok nothing, .start, furnished) := exec_readFile_of_absent (by decide)
  have hdir : directory.exec .start furnished =
      (.ok (Path.ofText standardDirectory), .start, furnished) := rfl
  have hover : override (.map (some ⟨sharedName, 12⟩) ownFields) nothing =
      .ok (.map (some ⟨sharedName, 12⟩) ownFields) := rfl
  have hall : (Shared.map (some ⟨sharedName, 12⟩) ownFields).overrideAll furnished.environment =
      .ok (.map (some ⟨sharedName, 12⟩) (ownFields ++ [(.text "general",
        .map none [(.text "json_logs", .ofData (.bool true))])])) := by
    cbv
  refine confined_settings.exists_exec ?_
  rw [exec_settings_eq rfl (exec_configuration hdir hy hm), hover, Except.bind, hall]
  rfl

/-- The places of the settings. -/
def ofSettings (l : Location) : Prop :=
  ["config"] <+: l

theorem sameOff_furnished : (plain grove).SameOff ofSettings furnished := by
  refine ⟨rfl, rfl, fun l hl => ?_⟩
  have hdir : l ≠ ["config"] := by
    rintro rfl
    exact hl (List.prefix_refl _)
  have hfile : l ≠ ["config", "settings.yaml"] := by
    rintro rfl
    exact hl (List.prefix_append ["config"] ["settings.yaml"])
  simp [furnished, plainUnder, plain, grove, Store.get?, List.lookup_cons, beq_false_of_ne hdir,
    beq_false_of_ne hfile]

theorem clear_grove {p : Path} (hp : (top "tree").InTree p) : (plain grove).ClearOf ofSettings p := by
  obtain ⟨ns, hns, rfl⟩ := hp
  have hroot : ¬ ofSettings [] := by simp [ofSettings]
  have hout : ∀ l, ["tree"] <+: l → ¬ ofSettings l := by
    rintro l ⟨r, rfl⟩ ⟨r', hr'⟩
    exact absurd (List.cons.inj hr').1 (by decide)
  have hlink : ∀ l target, grove.get? l ≠ some (.link target) := by
    intro l target hl
    simp only [grove, Store.get?, List.lookup_cons] at hl
    grind
  refine Store.Clear.on hroot (hout _ (List.prefix_refl _)) (fun {m} hs => ?_) fun hs _ => ?_
  · obtain rfl := Store.eq_of_step_moved hs (by decide)
    exact Store.clear_of_linkless hout (fun l target _ => hlink l target) (List.prefix_refl _) hns
  · exact absurd (Store.get?_of_step_link hs) (hlink _ _)

/-- Settings beside the tree and a variable are nothing to a run that is given its settings. -/
theorem given_settings_decide_beside_own_settings :
    ((run (top "tree") .problem (some .standard) false).exec .start (plain grove)).1 =
        ((run (top "tree") .problem (some .standard) false).exec .start furnished).1 ∧
      ((run (top "tree") .problem (some .standard) false).exec .start
        (plain grove)).2.2.SameOff ofSettings
          ((run (top "tree") .problem (some .standard) false).exec .start furnished).2.2 := by
  obtain ⟨t, hload⟩ := exec_settings_furnished
  obtain ⟨style, hensure⟩ := Log.exec_ensure_of_settings rfl hload rfl rfl
  have hplain : (Log.ensure none).exec .start (plain grove) =
      (.ok (), ⟨some .standard, ⟨some .console, .standard, []⟩, []⟩, attached grove) := rfl
  have hready : ∀ w : World, w.ReadiedOff ofSettings { w with attached := true, log := none } :=
    fun w => ⟨⟨rfl, rfl, fun _ _ => rfl⟩, fun _ h => nomatch h⟩
  exact (given_settings_decide_after_set_up rfl sameOff_furnished clear_grove (by decide) .problem
    .standard false).2 hplain hensure (hready _) (hready _)

/-! ## A variable that stops a run -/

/-- The tree, and a variable for a field that there is not. -/
def misnamed : World :=
  plainUnder [("PROBLEMIFY_DISCOVERY__EXTENSION", ".ts")] grove

theorem exec_settings_misnamed :
    ∃ issues t, Config.settings.exec .start misnamed =
      (.error (.settings (.invalid issues)), t, misnamed) := by
  have hdir : directory.exec .start misnamed =
      (.ok (Path.ofText standardDirectory), .start, misnamed) := rfl
  have hall : nothing.overrideAll misnamed.environment =
      .ok (.map none [(.text "discovery",
        .map none [(.text "extension", .ofData (.text ".ts"))])]) := by
    cbv
  have hresult : ∃ issues, (Config.settings.exec .start misnamed).1 =
      .error (.settings (.invalid issues)) := by
    rw [exec_settings_eq rfl (exec_configuration_of_absent hdir (by decide)
      (by decide)), hall]
    exact ⟨_, rfl⟩
  obtain ⟨issues, hresult⟩ := hresult
  exact ⟨issues, confined_settings.exists_exec hresult⟩

/-- The work of a run on the tree. -/
theorem exec_work_grove (s : Session) :
    ((work (top "tree") .problem .standard false).exec s (attached grove)).1 =
      .ok ⟨top "tree", .problem, false, [⟨(top "tree").child "a.js", .rewritten, false⟩]⟩ := by
  have hlist : ((attached grove).answer (.list (top "tree"))).1 = .ok ["a.js"] := by decide
  have hflat : ∀ n ∈ ["a.js"],
      ((attached grove).answer (.isDirectory ((top "tree").child n))).1 = .ok false := by
    decide
  have hwalk : ∀ s, (Discovery.walk ⟨Settings.standard.discovery.extensions,
      Settings.standard.discovery.ignoreNames⟩ mostPathBytes (top "tree")).exec s (attached grove) =
        (.ok [(top "tree").child "a.js"], s, attached grove) := by
    intro s
    rw [mostPathBytes, Discovery.exec_walk, hlist]
    simp only [Discovery.sorted_of_pairwise (List.pairwise_singleton (· ≤ ·) "a.js")]
    exact Discovery.exec_visitAll_of_flat hflat s
  obtain ⟨s₁, w₁, hfound, hnoted⟩ := Log.exec_event Discovery.logger .debug "discovery_completed"
    [("root", .text (top "tree").text), ("count", .int 1)] s (attached grove)
  have hsearch : (Discovery.search (top "tree") ⟨Settings.standard.discovery.extensions,
      Settings.standard.discovery.ignoreNames⟩).exec s (attached grove) =
        (.ok [(top "tree").child "a.js"], s₁, w₁) :=
    exec_bind_eq_ok.mpr ⟨_, _, _, hwalk s, exec_bind_eq_ok.mpr ⟨_, _, _, hfound, rfl⟩⟩
  have hheld : (attached grove).Holds ((top "tree").child "a.js") ["tree", "a.js"]
      "x\n".toUTF8.toList := ⟨by decide, rfl⟩
  have htext : Processing.textOf (attached grove) ((top "tree").child "a.js") "utf-8" =
      .ok (Encoding.utf8.codec, "x\n".toList) :=
    Processing.textOf_of_described hheld rfl Encoding.ofName?_utf8 (by decide +kernel)
  have hfree := hnoted.sameFiles rfl
  obtain ⟨-, s₂, w₂, -, hprocessed, -, -⟩ :=
    Processing.exec_processFile_of_textOf (Processing.Unhindered.congr (fun _ => ⟨rfl, rfl⟩)
        hfree.directory hfree.faults)
      (apart_of_none hnoted.fixed.2.2 _) ((Processing.textOf_of_sameFiles hfree _).trans htext)
      (Processing.writable_of_described Encoding.ofName?_utf8 (by decide)) s₁
  have hplan : Plan.of .problem "x\n".toList = .rewrite "x\n".toList := by
    rw [Plan.of, Variant.transform_eq_kept]
    rfl
  rw [hplan] at hprocessed
  obtain ⟨s₃, w₃, hevent, -⟩ := Log.exec_event logger .info "run_completed"
    (RunReport.summary ⟨top "tree", .problem, false,
      [⟨(top "tree").child "a.js", .rewritten, false⟩]⟩) s₂ w₂
  have hall : (processAll .problem "utf-8" false [(top "tree").child "a.js"]).exec s₁ w₁ =
      (.ok [⟨(top "tree").child "a.js", .rewritten, false⟩], s₂, w₂) :=
    exec_bind_eq_ok.mpr ⟨_, _, _, hprocessed, exec_bind_eq_ok.mpr ⟨_, _, _, rfl, rfl⟩⟩
  exact congrArg Prod.fst (exec_bind_eq_ok.mpr ⟨_, _, _, hsearch, exec_bind_eq_ok.mpr
    ⟨_, _, _, hall, exec_bind_eq_ok.mpr ⟨_, _, _, hevent, rfl⟩⟩⟩)

/-- **A variable stops a run that is given its settings.** Nothing but the environment differs. -/
theorem variable_stops_given_settings :
    (∀ H, (plain grove).SameOff H misnamed) ∧
      ((run (top "tree") .problem (some .standard) false).exec .start (plain grove)).1 =
        .ok ⟨top "tree", .problem, false, [⟨(top "tree").child "a.js", .rewritten, false⟩]⟩ ∧
      ∃ issues, ((run (top "tree") .problem (some .standard) false).exec .start misnamed).1 =
        .error (.settings (.invalid issues)) := by
  refine ⟨fun H => ⟨rfl, rfl, fun _ _ => rfl⟩, ?_, ?_⟩
  · have hplain : (Log.ensure none).exec .start (plain grove) =
        (.ok (), ⟨some .standard, ⟨some .console, .standard, []⟩, []⟩, attached grove) := rfl
    rw [exec_run_of_ensured rfl hplain, Log.exec_within]
    exact exec_work_grove _
  · obtain ⟨issues, t, hload⟩ := exec_settings_misnamed
    have hrun : (run (top "tree") .problem (some .standard) false).exec .start misnamed =
        (.error (.settings (.invalid issues)), t, misnamed) :=
      exec_run_of_refused (Log.exec_ensure_of_unloaded rfl hload)
    exact ⟨issues, congrArg Prod.fst hrun⟩

end Run

end Handout
