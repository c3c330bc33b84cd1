import Handout.Proofs.Processing

/-!
# Files that are processed one after the other

A dry run says what is foretold of each file and does nothing (`exec_processAll_dry`). A run does it
(`exec_processAll`): when no two paths lead to one file, what is done to one file is nothing to the
paths after it, so each plan is made from the text that its file had at the start. `Processed` is what
a list of files that are processed leaves behind, and `Processed.cons` is the step of the induction
over it. All this needs that the texts which are planned can be written (`Writable`). They can in the
described encodings but for the one that switches (`writable_of_described`).

**What it does not establish.** All of this is about paths that are apart from the log: a file that
records are written to while it waits for its turn may have another text then. Nothing is said of
paths that lead to one file; the second of them may find another text than the first, or none.
-/

namespace Handout

namespace Processing

open Act World

variable {w u z : World} {p q : Path} {v : Variant} {encoding : String} {codec : Codec}
  {text : List Char} {l : Location} {b : List UInt8} {r : FileResult} {paths : List Path}
  {results : List FileResult}

/-! ## A plan carried out -/

/-- **A plan is carried out** from one world to another: the entry that was deleted is gone, the file
that was written holds the bytes of its text. -/
def CarriedOut (w u : World) (p : Path) (codec : Codec) : Plan → Prop
  | .delete => ∃ d e, w.find false p = .ok d ∧ w.store.get? d = some e ∧ u.store.get? d = none
  | .rewrite text =>
    ∃ l bytes, w.find true p = .ok l ∧ codec.encode text = .ok bytes ∧ u.Holds p l bytes

/-- A run whose writes and deletions are not made to fail. -/
def Unhindered (w : World) : Prop :=
  ∀ p, w.fault? .write p = none ∧ w.fault? .delete p = none

theorem Unhindered.congr (hw : Unhindered w) (hd : u.directory = w.directory)
    (hf : u.faults = w.faults) : Unhindered u := by
  intro p
  rw [fault?_congr hd hf, fault?_congr hd hf]
  exact hw p

/-- A plan that is carried out stays so while what it left is let alone. -/
theorem CarriedOut.later {plan : Plan} (h : CarriedOut w u p codec plan)
    (hgone : ∀ {d}, u.store.get? d = none → z.store.get? d = none)
    (hheld : ∀ {l b}, w.find true p = .ok l → u.Holds p l b → z.Holds p l b) :
    CarriedOut w z p codec plan := by
  cases plan with
  | delete =>
    obtain ⟨d, e, hd, he, hn⟩ := h
    exact ⟨d, e, hd, he, hgone hn⟩
  | rewrite new =>
    obtain ⟨l, bytes, hl, hbytes, hp⟩ := h
    exact ⟨l, bytes, hl, hbytes, hheld hl hp⟩

/-- A plan that is carried out from one world is carried out from an earlier one in which the path
leads to the same place. -/
theorem CarriedOut.earlier {plan : Plan} (h : CarriedOut u z p codec plan)
    (hfind : u.find true p = w.find true p)
    (hentry : ∀ {d e}, u.find false p = .ok d → u.store.get? d = some e →
      w.find false p = .ok d ∧ ∃ e', w.store.get? d = some e') :
    CarriedOut w z p codec plan := by
  cases plan with
  | delete =>
    obtain ⟨d, e, hd, he, hn⟩ := h
    obtain ⟨hd', e', he'⟩ := hentry hd he
    exact ⟨d, e', hd', he', hn⟩
  | rewrite new =>
    obtain ⟨l, bytes, hl, hbytes, hp⟩ := h
    exact ⟨l, bytes, hfind ▸ hl, hbytes, hp⟩

theorem exists_enact (hw : Unhindered w) (hp : w.Holds p l b)
    (hwrite : ∀ {new}, Plan.of v text = .rewrite new → ∃ bytes, codec.encode new = .ok bytes) :
    ∃ u, enact w p codec (Plan.of v text) = (.ok (), u) ∧ w.Handled l u ∧
      CarriedOut w u p codec (Plan.of v text) := by
  obtain ⟨hputs, hdeletes⟩ := hw p
  cases hplan : Plan.of v text with
  | delete =>
    obtain ⟨d, e, hfind, hd, hdir, hdoomed, hg⟩ := hp.exists_doomed
    refine ⟨w.erase d, ?_, .deleted hp.file hd hdir hg, d, e, hfind, hd, ?_⟩
    · rw [enact, unless?, hdeletes, hdoomed]
    · exact (Store.get?_erase _ _ _ (ne_nil_of_entry hd hdir)).trans (if_pos rfl)
  | rewrite new =>
    obtain ⟨bytes, hbytes⟩ := hwrite hplan
    refine ⟨w.put l (.file bytes), ?_, .written hp.file bytes, l, bytes, hp.found, hbytes,
      hp.put bytes⟩
    rw [enact, unless?, hputs, hp.target_eq, hbytes]
    rfl

/-- A path to the same place as before stays apart from the log. -/
theorem apart_of_passed (h : w.Passed l u) (ha : w.Apart q) (hq : u.find true q = w.find true q) :
    u.Apart q :=
  ⟨h.there, fun m hm => hq ▸ ha.other m (h.log ▸ hm)⟩

/-! ## What a file's text depends on -/

variable [Codecs]

theorem textOf_congr (hfault : u.fault? .read p = w.fault? .read p) (hread : u.read p = w.read p) :
    textOf u p encoding = textOf w p encoding := by
  rw [textOf, textOf, unless?, unless?, hfault, hread]

theorem textOf_of_sameFiles (h : w.SameFiles u) (p : Path) :
    textOf u p encoding = textOf w p encoding :=
  textOf_congr (h.fault? .read p) (h.read p)

theorem textOf_of_noted (h : w.Noted u) (ha : w.Apart p) :
    textOf u p encoding = textOf w p encoding :=
  textOf_congr (fault?_congr h.fixed.1 h.fixed.2.1 .read p) (h.read ha)

/-- A file that has a text leads to bytes that decode to it. -/
theorem holds_of_textOf (h : textOf w p encoding = .ok (codec, text)) :
    ∃ l b, w.Holds p l b ∧ codec.decode b = .ok text := by
  obtain ⟨b, hread, _, hb⟩ := textOf_eq_ok.mp h
  obtain ⟨l, hl⟩ := read_eq_ok.mp (unless?_eq_ok.mp hread).2
  exact ⟨l, b, hl, hb⟩

/-- A file that holds bytes has the text that they are in the described encoding named. -/
theorem textOf_of_described {enc : Encoding} (hp : w.Holds p l b) (hread : w.fault? .read p = none)
    (hname : Encoding.ofName? encoding = some enc) (hb : enc.decode b = .ok text) :
    textOf w p encoding = .ok (enc.codec, text) :=
  textOf_eq_ok.mpr ⟨b, unless?_eq_ok.mpr ⟨hread, read_eq_ok.mpr ⟨l, hp⟩⟩,
    Codec.ofName?_of_described hname, hb⟩

/-- **What is planned for a file can be written**: a text that is planned has bytes by the codec that
the file was read with. -/
def Writable (w : World) (v : Variant) (encoding : String) (p : Path) : Prop :=
  ∀ codec text new, textOf w p encoding = .ok (codec, text) → Plan.of v text = .rewrite new →
    ∃ bytes, codec.encode new = .ok bytes

theorem Writable.congr (h : Writable w v encoding p)
    (htext : textOf u p encoding = textOf w p encoding) : Writable u v encoding p :=
  fun _ _ _ ht => h _ _ _ (htext.symm.trans ht)

/-- What a variant leaves of a text that was read has bytes in the described encodings, but for the
one that switches. -/
theorem writable_of_described {enc : Encoding} (hname : Encoding.ofName? encoding = some enc)
    (henc : enc ≠ .switched) : Writable w v encoding p := by
  intro codec text new ht hplan
  obtain ⟨b, _, hcodec, hb⟩ := textOf_eq_ok.mp ht
  obtain rfl := Codec.eq_of_described hname hcodec
  obtain rfl := (Plan.of_eq_rewrite.mp hplan).2
  exact Encoding.exists_encode henc hb (v.transform_sublist text)

/-- Another file that is handled is nothing to a path. -/
theorem textOf_of_passed (h : w.Passed l u) (hq : w.find true q ≠ .ok l) (ha : w.Apart q)
    (ht : textOf w q encoding = .ok (codec, text)) :
    textOf u q encoding = .ok (codec, text) ∧ u.find true q = w.find true q := by
  obtain ⟨m, c, hm, _⟩ := holds_of_textOf ht
  have hne : l ≠ m := by
    rintro rfl
    exact hq hm.found
  have hheld := h.holds hm hne fun hlog => ha.other m hlog hm.found
  refine ⟨?_, hheld.found.trans hm.found.symm⟩
  rw [← ht]
  refine textOf_congr (fault?_congr h.directory h.faults .read q) ?_
  rw [read_eq_ok.mpr ⟨m, hm⟩, read_eq_ok.mpr ⟨m, hheld⟩]

/-! ## A dry run -/

/-- **What is foretold of a file**: the result that the plan made from its text has. -/
def Foretold (w : World) (v : Variant) (encoding : String) (p : Path) (r : FileResult) : Prop :=
  ∃ codec text, textOf w p encoding = .ok (codec, text) ∧ r = .ofPlan p text (Plan.of v text)

theorem Foretold.of_noted (h : w.Noted u) (ha : w.Apart p) (hr : Foretold u v encoding p r) :
    Foretold w v encoding p r := by
  obtain ⟨codec, text, ht, hplan⟩ := hr
  exact ⟨codec, text, (textOf_of_noted h ha).symm.trans ht, hplan⟩

/-- **A dry run of one file** comes to what is foretold of it, and only records that. -/
theorem exec_processFile_dry (hr : Foretold w v encoding p r) (s : Session) :
    ∃ t u, (processFile p v (some encoding) true).exec s w = (.ok r, t, u) ∧ w.Noted u := by
  obtain ⟨codec, text, ht, rfl⟩ := hr
  have hcomes := comesTo_processFile w p v encoding true s
  rw [attempt, ht] at hcomes
  exact hcomes

theorem foretold_of_exec {s t : Session}
    (h : (processFile p v (some encoding) true).exec s w = (.ok r, t, u)) :
    Foretold w v encoding p r ∧ w.Noted u := by
  obtain ⟨u₀, hattempt, hnoted⟩ := (comesTo_processFile w p v encoding true s).eq_ok h
  obtain ⟨codec, text, ht, hx, hr⟩ := attempt_eq_ok.mp hattempt
  cases hx
  exact ⟨⟨codec, text, ht, hr⟩, hnoted⟩

/-- **A dry run** comes to what is foretold of the files, and only records that. -/
theorem exec_processAll_dry (ha : ∀ p ∈ paths, w.Apart p)
    (h : List.Forall₂ (Foretold w v encoding) paths results) (s : Session) :
    ∃ t u, (Run.processAll v encoding true paths).exec s w = (.ok results, t, u) ∧ w.Noted u := by
  -- records come in on the way, so what is foretold is kept for the world at the start
  suffices hall : ∀ {w'}, w.Noted w' → ∀ s, ∃ t u,
      (Run.processAll v encoding true paths).exec s w' = (.ok results, t, u) ∧ w.Noted u from
    hall .same s
  induction h with
  | nil => exact fun hnoted s => ⟨s, _, rfl, hnoted⟩
  | @cons p r ps rs hr _ ih =>
    intro w' hnoted s
    obtain ⟨hap, haps⟩ := List.forall_mem_cons.mp ha
    obtain ⟨codec, text, ht, hplan⟩ := hr
    obtain ⟨t, u, hexec, hnext⟩ := exec_processFile_dry (w := w') (r := r) (v := v)
      ⟨codec, text, (textOf_of_noted hnoted hap).trans ht, hplan⟩ s
    obtain ⟨t', u', hrest, hlast⟩ := ih haps (hnoted.trans hnext) t
    exact ⟨t', u', exec_bind_eq_ok.mpr ⟨_, _, _, hexec, exec_bind_eq_ok.mpr ⟨_, _, _, hrest, rfl⟩⟩,
      hlast⟩

/-- **What a dry run comes to** was foretold of each file when its turn came, with records written
before. -/
theorem forall₂_foretold_in_turn {s t : Session}
    (h : (Run.processAll v encoding true paths).exec s w = (.ok results, t, u)) :
    List.Forall₂ (fun p r => ∃ w', w.Noted w' ∧ Foretold w' v encoding p r) paths results := by
  suffices hall : ∀ {w' s results}, w.Noted w' →
      (Run.processAll v encoding true paths).exec s w' = (.ok results, t, u) →
      List.Forall₂ (fun p r => ∃ w', w.Noted w' ∧ Foretold w' v encoding p r) paths results from
    hall .same h
  clear h
  induction paths with
  | nil => rintro w' s results - h; cases h; exact .nil
  | cons p ps ih =>
    intro w' s results hnoted h
    obtain ⟨r, s₁, w₁, hp, h⟩ := exec_bind_eq_ok.mp h
    obtain ⟨rs, s₂, w₂, hps, hpure⟩ := exec_bind_eq_ok.mp h
    cases hpure
    obtain ⟨hr, hnext⟩ := foretold_of_exec hp
    exact .cons ⟨w', hnoted, hr⟩ (ih (hnoted.trans hnext) hps)

/-- What a dry run comes to was foretold of the files, where they are apart from the log. -/
theorem forall₂_foretold_of_exec {s t : Session} (ha : ∀ p ∈ paths, w.Apart p)
    (h : (Run.processAll v encoding true paths).exec s w = (.ok results, t, u)) :
    List.Forall₂ (Foretold w v encoding) paths results := by
  refine ((List.forall₂_and_left _ _).mpr ⟨ha, forall₂_foretold_in_turn h⟩).imp ?_
  rintro p r ⟨hap, w', hnoted, hr⟩
  exact hr.of_noted hnoted hap

/-! ## One file -/

/-- **A file with a text is processed** as foretold of it, and its plan is carried out. -/
theorem exec_processFile_of_textOf (hw : Unhindered w) (ha : w.Apart p)
    (ht : textOf w p encoding = .ok (codec, text)) (hwrite : Writable w v encoding p) (s : Session) :
    ∃ l t u, w.find true p = .ok l ∧
      (processFile p v (some encoding) false).exec s w =
        (.ok (.ofPlan p text (Plan.of v text)), t, u) ∧
      w.Passed l u ∧ CarriedOut w u p codec (Plan.of v text) := by
  obtain ⟨l, b, hp, hb⟩ := holds_of_textOf ht
  have hlog : w.log ≠ some l := fun hlog => ha.other l hlog hp.found
  obtain ⟨u, henact, hhandled, hdone⟩ := exists_enact hw hp fun hplan => hwrite _ _ _ ht hplan
  have hattempt : attempt w p v encoding false = (.ok (.ofPlan p text (Plan.of v text)), u) :=
    attempt_eq_ok.mpr ⟨codec, text, ht, henact, rfl⟩
  have hcomes := comesTo_processFile w p v encoding false s
  rw [hattempt] at hcomes
  obtain ⟨t, u', hexec, hnoted⟩ := hcomes
  have hthere := hhandled.logThere ha.there hlog
  refine ⟨l, t, u', hp.found, hexec, hhandled.passed ha.there hlog hnoted, hdone.later ?_ ?_⟩
  · exact hnoted.get?_eq_none hthere
  · intro m c hm hheld
    obtain rfl := Except.ok.inj (hp.found.symm.trans hm)
    exact hnoted.holds hthere hheld (hhandled.log_eq ha.there hlog ▸ hlog)

/-! ## Files that lead to different places -/

/-- **A file is done**: its result is that of the plan made from the text that it had, and the plan
is carried out. -/
def Done (w u : World) (v : Variant) (encoding : String) (p : Path) (r : FileResult) : Prop :=
  ∃ codec text, textOf w p encoding = .ok (codec, text) ∧ r = .ofPlan p text (Plan.of v text) ∧
    CarriedOut w u p codec (Plan.of v text)

theorem Done.foretold (h : Done w u v encoding p r) : Foretold w v encoding p r := by
  obtain ⟨codec, text, ht, hr, _⟩ := h
  exact ⟨codec, text, ht, hr⟩

/-- **What processing a list of files leaves behind**: every one of them done, the other files as
they were but for the log file, and nothing where nothing was. -/
structure Processed (w u : World) (v : Variant) (encoding : String) (paths : List Path)
    (results : List FileResult) : Prop where
  done : List.Forall₂ (Done w u v encoding) paths results
  log : u.log = w.log
  others : ∀ {q m c}, w.Holds q m c → (∀ p ∈ paths, w.find true p ≠ .ok m) → w.log ≠ some m →
    u.Holds q m c
  absent : ∀ {d}, w.store.get? d = none → u.store.get? d = none

/-- A file that is done once another one is handled is done from the start. -/
theorem Done.of_passed (h : w.Passed l u) (hq : w.find true q ≠ .ok l) (ha : w.Apart q)
    (ht : textOf w q encoding = .ok (codec, text)) (hd : Done u z v encoding q r) :
    Done w z v encoding q r := by
  obtain ⟨htext, hfind⟩ := textOf_of_passed h hq ha ht
  obtain ⟨codec', text', ht', hr, hdone⟩ := hd
  rw [htext] at ht'
  cases ht'
  refine ⟨codec, text, ht, hr, hdone.earlier hfind fun {d e} hd he => ⟨h.find_eq hd he, ?_⟩⟩
  cases hw : w.store.get? d with
  | none => rw [h.get?_eq_none hw] at he; cases he
  | some e' => exact ⟨e', rfl⟩

/-- What is done does not depend on records written before or since. -/
theorem Done.of_sameFiles {u' : World} (h : w.SameFiles u) (hd : Done u u' v encoding p r)
    (hs : u'.SameFiles z) : Done w z v encoding p r := by
  obtain ⟨codec, text, ht, hr, hdone⟩ := hd
  refine ⟨codec, text, (textOf_of_sameFiles h p).symm.trans ht, hr, ?_⟩
  refine (hdone.earlier (h.find true p) fun {d e} hd he => ?_).later (fun {d} hn => hs.store ▸ hn)
    fun _ hheld => hs.holds hheld
  exact ⟨h.find false p ▸ hd, e, h.store ▸ he⟩

/-- **One file, then the files after it**, none of which leads to the same place. -/
theorem Processed.cons {ps : List Path} {rs : List FileResult} (hp : w.find true p = .ok l)
    (h : w.Passed l u) (ht : textOf w p encoding = .ok (codec, text))
    (hdone : CarriedOut w u p codec (Plan.of v text)) (hap : w.Apart p)
    (ha : ∀ q ∈ ps, w.Apart q) (hne : ∀ q ∈ ps, w.find true q ≠ .ok l)
    (hread : ∀ q ∈ ps, ∃ a, textOf w q encoding = .ok a)
    (hps : Processed u z v encoding ps rs) :
    Processed w z v encoding (p :: ps) (.ofPlan p text (Plan.of v text) :: rs) := by
  have hfind : ∀ q ∈ ps, u.find true q = w.find true q := fun q hq => by
    obtain ⟨a, hqa⟩ := hread q hq
    exact (textOf_of_passed h (hne q hq) (ha q hq) hqa).2
  refine ⟨.cons ⟨codec, text, ht, rfl, hdone.later hps.absent ?_⟩ ?_, hps.log.trans h.log, ?_, ?_⟩
  · -- the first file stays as it was left, since no other path leads to it
    intro m c hm hheld
    obtain rfl := Except.ok.inj (hp.symm.trans hm)
    refine hps.others hheld (fun q hq => ?_) fun hlog => hap.other l (h.log ▸ hlog) hp
    rw [hfind q hq]
    exact hne q hq
  · -- the files after the first have the texts that they had before it
    refine ((List.forall₂_and_left _ _).mpr ⟨fun q hq => hq, hps.done⟩).imp ?_
    rintro q r ⟨hq, hr⟩
    obtain ⟨a, hqa⟩ := hread q hq
    exact hr.of_passed h (hne q hq) (ha q hq) hqa
  · intro q m c hq hm hlog
    have hlm : l ≠ m := by
      rintro rfl
      exact hm p List.mem_cons_self hp
    refine hps.others (h.holds hq hlm hlog) (fun p' hp' => ?_) (h.log ▸ hlog)
    rw [hfind p' hp']
    exact hm p' (List.mem_cons_of_mem p hp')
  · exact fun {d} hd => hps.absent (h.get?_eq_none hd)

/-- **Files that lead to different places are all done**, when each of them has a text, what is planned
for it can be written, and no write and no deletion is made to fail. -/
theorem exec_processAll (hw : Unhindered w) (ha : ∀ p ∈ paths, w.Apart p)
    (hread : ∀ p ∈ paths, ∃ a, textOf w p encoding = .ok a)
    (hwrite : ∀ p ∈ paths, Writable w v encoding p)
    (hne : paths.Pairwise fun p q => w.find true p ≠ w.find true q) (s : Session) :
    ∃ results t z, (Run.processAll v encoding false paths).exec s w = (.ok results, t, z) ∧
      Processed w z v encoding paths results := by
  induction paths generalizing w s with
  | nil => exact ⟨[], s, w, rfl, ⟨.nil, rfl, fun hq _ _ => hq, id⟩⟩
  | cons p ps ih =>
    obtain ⟨hap, haps⟩ := List.forall_mem_cons.mp ha
    obtain ⟨hp, hps⟩ := List.pairwise_cons.mp hne
    obtain ⟨⟨⟨codec, text⟩, ht⟩, hreadrest⟩ := List.forall_mem_cons.mp hread
    obtain ⟨hwritep, hwriterest⟩ := List.forall_mem_cons.mp hwrite
    obtain ⟨l, t, u, hl, hexec, hpassed, hdone⟩ := exec_processFile_of_textOf hw hap ht hwritep s
    have hother : ∀ q ∈ ps, w.find true q ≠ .ok l := fun q hq hfound =>
      hp q hq (hl.trans hfound.symm)
    -- what is handled first is nothing to the paths after it
    have hkeep : ∀ q ∈ ps, textOf u q encoding = textOf w q encoding ∧
        u.find true q = w.find true q := fun q hq => by
      obtain ⟨a, hqa⟩ := hreadrest q hq
      obtain ⟨htext, hfind⟩ := textOf_of_passed hpassed (hother q hq) (haps q hq) hqa
      exact ⟨htext.trans hqa.symm, hfind⟩
    obtain ⟨rs, t', z, hrest, hprocessed⟩ :=
      ih (hw.congr hpassed.directory hpassed.faults)
        (fun q hq => apart_of_passed hpassed (haps q hq) (hkeep q hq).2)
        (fun q hq => (hkeep q hq).1 ▸ hreadrest q hq)
        (fun q hq => (hwriterest q hq).congr (hkeep q hq).1)
        (hps.imp_of_mem fun {q r} hq hr hqr => by rwa [(hkeep q hq).2, (hkeep r hr).2]) t
    exact ⟨_, t', z, exec_bind_eq_ok.mpr ⟨_, _, _, hexec, exec_bind_eq_ok.mpr ⟨_, _, _, hrest, rfl⟩⟩,
      hprocessed.cons hl hpassed ht hdone hap haps hother hreadrest⟩

theorem exists_textOf_of_foretold (h : List.Forall₂ (Foretold w v encoding) paths results) :
    ∀ p ∈ paths, ∃ a, textOf w p encoding = .ok a := by
  induction h with
  | nil => exact fun p hp => nomatch hp
  | cons hr _ ih =>
    obtain ⟨_, _, ht, _⟩ := hr
    exact List.forall_mem_cons.mpr ⟨⟨_, ht⟩, ih⟩

theorem forall₂_foretold_unique {rs : List FileResult}
    (h : List.Forall₂ (Foretold w v encoding) paths results)
    (k : List.Forall₂ (Foretold w v encoding) paths rs) : results = rs := by
  induction h generalizing rs with
  | nil => cases k; rfl
  | cons hr _ ih =>
    cases k with
    | cons hr' hrest =>
      obtain ⟨codec, text, ht, rfl⟩ := hr
      obtain ⟨codec', text', ht', rfl⟩ := hr'
      rw [ht] at ht'
      cases ht'
      rw [ih hrest]

end Processing

end Handout
