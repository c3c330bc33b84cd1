import Handout.Proofs.Frame
import Handout.Proofs.Settled

/-!
# A run made again

A text that a variant has made is made again from itself, so its plan is to keep it, unless the
marks that were removed uncovered a deletion mark at its start (`Plan.of_output`).

The same holds of files. What a run leaves at a path that it processed is written as an output of
the variant, or is nothing (`output_of_run`); a later run finds no candidates that the first one did
not find (`mem_candidates_of_framed`). So a second run writes every file as it is, and all that it
can do is take entries away whose file begins with the mark (`Thinned`, `again_unless_marked`). This
needs a codec that reads back what it writes.

**What it does not establish.** A log file takes the records of the second run, and it may be one of
the files that are processed; runs with one are left out. So are codecs that read something else than
was written; with one that takes escapes in a text for what they stand for, a second run goes on where
the first one stopped.
-/

namespace Handout

open Act

/-! ## Plans -/

/-- **The plan of an output** is to keep it, unless it begins with the mark. -/
theorem Plan.of_output {v : Variant} {text new : List Char} (h : Plan.of v text = .rewrite new) :
    Plan.of v new = if v.deletionMark.toList.isPrefixOf new then .delete else .rewrite new := by
  obtain ⟨_, rfl⟩ := Plan.of_eq_rewrite.mp h
  rw [Plan.of, Variant.transform_idem]

/-- Once the line of the other variant's mark is removed, the mark below it stands first. -/
theorem Plan.uncovered_mark :
    Plan.of .problem "/* PROBLEM FILE */\n/* SOLUTION FILE */\n".toList =
        .rewrite "/* SOLUTION FILE */\n".toList ∧
      Plan.of .problem "/* SOLUTION FILE */\n".toList = .delete := by
  refine ⟨Plan.of_eq_rewrite.mpr ⟨by decide, ?_⟩, Plan.of_eq_delete.mpr (by decide)⟩
  rw [Variant.transform_eq_kept]
  decide +kernel

namespace Processing

open World

variable [Codecs] {w u : World} {p q : Path} {v : Variant} {encoding : String} {l d : Location}
  {b : List UInt8} {r : FileResult}

/-! ## What processing leaves -/

/-- Bytes that an output of a variant is written in. -/
def Output (v : Variant) (encoding : String) (b : List UInt8) : Prop :=
  ∃ codec text, Codec.ofName? encoding = some codec ∧ codec.encode (v.transform text) = .ok b

/-- **What a path leads to after a file was worked on** is written as an output, or is what it led
to before, when the path is another one. -/
theorem Worked.holds (h : Worked w p v encoding u) (hq : u.Holds q l b) :
    Output v encoding b ∨ q ≠ p ∧ w.Holds q l b := by
  obtain ⟨k, c, hp, hhandled⟩ := h.touched.handled
  have hfind := hhandled.find_eq hq.found hq.file
  cases h with
  | deleted _ _ _ _ hnamed hd hdir _ =>
    have hne := ne_nil_of_entry hd hdir
    refine .inr ⟨?_, hfind, (get?_of_erase hne hq.file).2⟩
    -- a path that still leads to a file names an entry, so not the one that is gone
    rintro rfl
    obtain ⟨d', e', hf', he', _⟩ := hq.exists_doomed
    have hsame := (hhandled.find_eq hf' he').symm.trans hnamed
    exact (get?_of_erase hne he').1 (Except.ok.inj hsame)
  | @written codec text m _ bytes hname hm _ _ hbytes =>
    by_cases hlm : l = m
    · subst hlm
      have hl := hq.file.symm.trans (hm.put bytes).file
      cases hl
      exact .inl ⟨codec, text, hname, hbytes⟩
    · refine .inr ⟨?_, hfind, ?_⟩
      · rintro rfl
        exact hlm (Except.ok.inj (hfind.symm.trans hm.found))
      · exact (Store.get?_put_ne _ hlm _).symm.trans hq.file

/-- Files that were processed one after the other hold outputs, where they are still there. -/
theorem output_of_processAll {paths : List Path} {results : List FileResult} {s t : Session}
    (hlog : w.log = none)
    (h : (Run.processAll v encoding false paths).exec s w = (.ok results, t, u))
    (hq : u.Holds q l b) : Output v encoding b ∨ q ∉ paths ∧ w.Holds q l b := by
  induction paths generalizing s w results with
  | nil =>
    cases h
    exact .inr ⟨List.not_mem_nil, hq⟩
  | cons p paths ih =>
    obtain ⟨r, s₁, w₁, hp, h⟩ := exec_bind_eq_ok.mp h
    obtain ⟨rs, s₂, w₂, hps, hpure⟩ := exec_bind_eq_ok.mp h
    cases hpure
    obtain ⟨u₀, hworked, hnoted⟩ := worked_of_exec hp
    have hlog₀ := hworked.touched.log hlog
    have hsame := hnoted.sameFiles hlog₀
    rcases ih (hnoted.fixed.2.2.trans hlog₀) hps with hout | ⟨hmem, hw₁⟩
    · exact .inl hout
    · refine (hworked.holds (hsame.symm.holds hw₁)).imp_right fun ⟨hne, hw⟩ => ⟨?_, hw⟩
      exact List.not_mem_cons_of_ne_of_not_mem hne hmem

end Processing

namespace World

variable [Codecs] {w u z : World} {v : Variant} {encoding : String} {q : Path} {l d : Location}
  {b : List UInt8}

/-! ## Entries that a mark takes away -/

/-- **An entry that goes with its file**: a path names it and leads to a file whose text begins with
the deletion mark. -/
def Marked (w : World) (v : Variant) (encoding : String) (d : Location) : Prop :=
  ∃ p l b codec text, w.find false p = .ok d ∧ w.Holds p l b ∧ Codec.ofName? encoding = some codec ∧
    codec.decode b = .ok text ∧ v.deletionMark.toList <+: text

/-- **A world thinned out**: every entry is what it was, file contents included, or was marked and
is gone. -/
structure Thinned (v : Variant) (encoding : String) (w u : World) : Prop where
  entry : ∀ d, u.store.get? d = w.store.get? d ∨ u.store.get? d = none ∧ Marked w v encoding d
  find_eq : ∀ {follow q d e}, u.find follow q = .ok d → u.store.get? d = some e →
    w.find follow q = .ok d

theorem Thinned.get?_eq {e : Entry} (h : Thinned v encoding w u) (hd : u.store.get? d = some e) :
    w.store.get? d = some e := by
  rcases h.entry d with heq | ⟨hnone, _⟩
  · exact heq ▸ hd
  · rw [hnone] at hd
    cases hd

theorem Thinned.holds (h : Thinned v encoding w u) (hq : u.Holds q l b) : w.Holds q l b :=
  ⟨h.find_eq hq.found hq.file, h.get?_eq hq.file⟩

theorem Thinned.marked (h : Thinned v encoding w u) (hd : Marked u v encoding d) :
    Marked w v encoding d := by
  obtain ⟨p, l, b, codec, text, hfind, hp, htext⟩ := hd
  obtain ⟨d', e, hf, he, _⟩ := hp.exists_doomed
  obtain rfl := Except.ok.inj (hf.symm.trans hfind)
  exact ⟨p, l, b, codec, text, h.find_eq hf he, h.holds hp, htext⟩

theorem SameFiles.thinned (h : w.SameFiles u) : Thinned v encoding w u where
  entry _ := .inl (by rw [h.store])
  find_eq hf _ := h.find _ _ ▸ hf

theorem Thinned.trans (h : Thinned v encoding w u) (k : Thinned v encoding u z) :
    Thinned v encoding w z where
  entry := by
    intro d
    rcases k.entry d with hz | ⟨hz, hmarked⟩
    · rcases h.entry d with hu | ⟨hu, hmarked⟩
      · exact .inl (hz.trans hu)
      · exact .inr ⟨hz.trans hu, hmarked⟩
    · exact .inr ⟨hz, h.marked hmarked⟩
  find_eq := by
    intro follow q d e hf hd
    exact h.find_eq (k.find_eq hf hd) (k.get?_eq hd)

end World

namespace Processing

open World

variable [Codecs] {w u : World} {p : Path} {v : Variant} {encoding : String}

/-- A text that is read from an output is one of the variant, and is written as it was. -/
theorem encode_of_output {codec : Codec} {text : List Char} {b : List UInt8}
    (hreads : ∀ codec, Codec.ofName? encoding = some codec → codec.Rereads)
    (hname : Codec.ofName? encoding = some codec) (hb : codec.decode b = .ok text)
    (hout : Output v encoding b) : codec.encode (v.transform text) = .ok b := by
  obtain ⟨codec', text', hname', hb'⟩ := hout
  obtain rfl := Option.some.inj (hname.symm.trans hname')
  obtain rfl := Except.ok.inj (hb.symm.trans (hreads _ hname _ _ hb'))
  rw [Variant.transform_idem, hb']

/-- **Working on a file that holds an output** writes it as it is, or takes a marked entry away. -/
theorem thinned_of_worked (hreads : ∀ codec, Codec.ofName? encoding = some codec → codec.Rereads)
    (h : Worked w p v encoding u ∨ Emptied w p v encoding u)
    (hout : ∀ {l b}, w.Holds p l b → Output v encoding b) : Thinned v encoding w u := by
  obtain ⟨_, _, _, hhandled⟩ := (h.elim Worked.touched Emptied.touched).handled
  refine ⟨fun d => ?_, hhandled.find_eq⟩
  rcases h with h | h
  · cases h with
    | @deleted codec text l k b _ hname hp hb hplan hfind hk hdir _ =>
      rw [erase, Store.get?_erase _ _ _ (ne_nil_of_entry hk hdir)]
      by_cases hd : d = k
      · subst hd
        rw [if_pos rfl]
        exact .inr ⟨rfl, p, l, b, codec, text, hfind, hp, hname, hb, Plan.of_eq_delete.mp hplan⟩
      · rw [if_neg hd]
        exact .inl rfl
    | @written codec text l b bytes hname hp hb _ hbytes =>
      rw [encode_of_output hreads hname hb (hout hp)] at hbytes
      cases hbytes
      left
      rw [put, Store.get?_put _ _ _ _ (ne_nil_of_file hp.file)]
      split
      · next hd => rw [hd, hp.file]
      · rfl
  · cases h with
    | intro hname hp hb _ hcode =>
      rw [encode_of_output hreads hname hb (hout hp)] at hcode
      cases hcode

/-- Moves that thin a world out, as long as some paths lead to outputs. -/
theorem lasting_thinned (P : Path → Prop) (v : Variant) (encoding : String) :
    Lasting fun w u =>
      (∀ p l b, P p → w.Holds p l b → Output v encoding b) → Thinned v encoding w u where
  refl w _ := (SameFiles.refl w).thinned
  trans h k hout := (h hout).trans (k fun p l b hp hl => hout p l b hp ((h hout).holds hl))

end Processing

namespace Discovery

variable {w u : World} {P : Path → Prop} {sel : Selection} {p q root : Path} {ns : List String}
  {found : List Path}

/-! ## What a later search finds -/

theorem Under.of_framed (h : World.Framed P w u) (hu : Under u sel p ns) : Under w sel p ns := by
  induction hu with
  | here hf hs => exact .here (h.isFile hf) hs
  | inside hd hn hk _ ih => exact .inside (h.isDirectory hd) hn hk ih

theorem Enumerates.mem_iff {Q : List String → Prop} (h : Enumerates root found Q) :
    p ∈ found ↔ ∃ ns, Q ns ∧ root.below ns = p := by
  obtain ⟨nss, rfl, _, hmem⟩ := h
  simp only [List.mem_map, hmem]

end Discovery

namespace Run

open World Processing Discovery

variable {root : Path} {v : Variant} {settings settings' : Option Settings} {dryRun : Bool}
  {s s' t t' : Session} {w u u₁ z : World} {P : Path → Prop} {st settings₀ : Settings}
  {paths paths' : List Path} {p : Path}

/-- What the first phase of a run finds is told by what its root leads to. -/
theorem mem_candidates (hlog : Log.Unlogged s w) (hnamed : w.store.Named)
    (h : (candidates root v settings).exec s w = (.ok (st, paths), t, u)) :
    p ∈ paths ↔ ∃ ns, (ns ≠ [] ∧ Under w (wanted st none none) root ns) ∧ root.below ns = p := by
  obtain ⟨_, _, w₁, hensure, _, hdiscover⟩ := exists_of_exec_candidates h
  obtain ⟨_, _, _, _, hwalk, _⟩ := exists_of_exec_discover hdiscover
  have hsame := (hlog.exec_ensure hensure).1
  have hframed : Framed (fun _ => False) w w₁ := hsame.framed
  have hframed' : Framed (fun _ => False) w₁ w := hsame.symm.framed
  refine (enumerates_walk (hsame.store ▸ hnamed) hwalk).mem_iff.trans ?_
  refine exists_congr fun ns => and_congr_left fun _ => and_congr_right fun _ => ?_
  exact ⟨.of_framed hframed, .of_framed hframed'⟩

/-- **A later search finds no more.** -/
theorem mem_candidates_of_framed (hlog : Log.Unlogged s w) (hnamed : w.store.Named)
    (hfound : (candidates root v settings).exec s w = (.ok (st, paths), t, u₁))
    (hlog' : Log.Unlogged s' u) (h : Framed P w u)
    (hfound' : (candidates root v settings').exec s' u = (.ok (st, paths'), t', z))
    (hp : p ∈ paths') : p ∈ paths := by
  obtain ⟨ns, ⟨hne, hu⟩, hp⟩ := (mem_candidates hlog' (h.named hnamed) hfound').mp hp
  exact (mem_candidates hlog hnamed hfound).mpr ⟨ns, ⟨hne, hu.of_framed h⟩, hp⟩

theorem settings_of_candidates
    (h : (candidates root v (some settings₀)).exec s w = (.ok (st, paths), t, u)) :
    st = settings₀ := by
  obtain ⟨_, _, _, _, hknown, _⟩ := exists_of_exec_candidates h
  cases hknown
  rfl

section

variable [Codecs]

/-- What a run leaves at the paths that it found are outputs. -/
theorem output_of_run {report : RunReport} {q : Path} {l : Location} {b : List UInt8}
    (hlog : Log.Unlogged s w)
    (hfound : (candidates root v settings).exec s w = (.ok (st, paths), t, u₁))
    (hrun : (run root v settings false).exec s w = (.ok report, t', u)) (hmem : q ∈ paths)
    (hq : u.Holds q l b) : Output v st.processing.encoding b := by
  obtain ⟨st', paths', s₁, w₁, results, s₂, w₂, hfound', hall, _, hnoted⟩ := exists_of_exec_run hrun
  cases hfound.symm.trans hfound'
  have hlog₁ := (sameFiles_of_unlogged hlog hfound).2 _ rfl
  have hlog₂ : w₂.log = none := by
    have hmoved := (confined_processAll (lasting_silent lasting_true) fun p _ =>
      confined_processFile lasting_true (fun _ => trivial) fun _ _ => trivial).moved hall
    exact (hmoved hlog₁).1
  have hsame := hnoted.sameFiles hlog₂
  exact (output_of_processAll hlog₁ hall (hsame.symm.holds hq)).resolve_right fun h => h.1 hmem

/-- **A second run of a variant** thins the files out that the first one left, and changes none. -/
theorem thinned_of_second_run {report : RunReport} (hlog : Log.Unlogged s w)
    (hnamed : w.store.Named)
    (hfound : (candidates root v settings).exec s w = (.ok (st, paths), t, u₁))
    (hrun : (run root v settings false).exec s w = (.ok report, t', u))
    (hlog' : Log.Unlogged s' u)
    (hst : ∀ {st' paths' t u'},
      (candidates root v settings').exec s' u = (.ok (st', paths'), t, u') → st' = st)
    (hreads : ∀ codec, Codec.ofName? st.processing.encoding = some codec → codec.Rereads) :
    Thinned v st.processing.encoding u ((run root v settings' dryRun).exec s' u).2.2 := by
  have hframed := framed_of_run hlog (congrArg (·.2.2) hrun)
  -- outputs stay outputs where a world is only thinned out, so the steps go together
  have hR := lasting_thinned (Discovered root v settings' s' u) v st.processing.encoding
  refine moved_of_run hR (fun h _ => h.thinned) hlog' (fun hfound' p hp => ?_) ?_
  · obtain rfl := hst hfound'
    refine confined_processFile hR (fun h _ => h.thinned) fun _ hworked hout => ?_
    exact thinned_of_worked hreads hworked (hout p _ _ ⟨_, _, _, _, hfound', hp⟩)
  · rintro p l b ⟨st', paths', t₂, u₂, hfound', hp⟩ hl
    obtain rfl := hst hfound'
    have hmem := mem_candidates_of_framed hlog hnamed hfound hlog' hframed hfound' hp
    exact output_of_run hlog hfound hrun hmem hl

/-- **A variant made again keeps what it made**, unless that begins with the deletion mark. An
output has a plan that keeps it or deletes it, as it begins. After a run in an encoding that reads back
what it writes, a second one under the same settings leaves every entry as it is, files with what they
hold, but for those that name a file whose text begins with the mark. -/
theorem again_unless_marked :
    (∀ {v : Variant} {text new : List Char}, Plan.of v text = .rewrite new →
      Plan.of v new = if v.deletionMark.toList.isPrefixOf new then .delete else .rewrite new) ∧
    ∀ {root : Path} {v : Variant} {settings settings' : Option Settings} {dryRun : Bool}
      {s s' t t' : Session} {w u u₁ z : World} {st : Settings} {paths : List Path}
      {report : RunReport},
      Log.Unlogged s w → w.store.Named →
      (candidates root v settings).exec s w = (.ok (st, paths), t, u₁) →
      (run root v settings false).exec s w = (.ok report, t', u) →
      Log.Unlogged s' u →
      (∀ {st' paths' t u'},
        (candidates root v settings').exec s' u = (.ok (st', paths'), t, u') → st' = st) →
      (∀ codec, Codec.ofName? st.processing.encoding = some codec → codec.Rereads) →
      ((run root v settings' dryRun).exec s' u).2.2 = z →
      ∀ d, z.store.get? d = u.store.get? d ∨
        z.store.get? d = none ∧ Marked u v st.processing.encoding d := by
  refine ⟨Plan.of_output, ?_⟩
  intro root v settings settings' dryRun s s' t t' w u u₁ z st paths report
  rintro hlog hnamed hfound hrun hlog' hst hreads rfl
  exact (thinned_of_second_run hlog hnamed hfound hrun hlog' hst hreads).entry

end

/-- A text whose first line is removed and whose second line is the mark. -/
def coveredText : List Char :=
  "/* PROBLEM FILE */\n/* SOLUTION FILE */\n".toList

/-- A store with that text in a file. -/
def covered : Store :=
  ⟨[(["a.js"], .file (Utf8.encode coveredText))], by decide⟩

theorem candidates_covered :
    (candidates ⟨.root, []⟩ .problem none).exec (loaded .standard) (plain covered) =
      (.ok (.standard, [top "a.js"]), searched .problem, attached covered) := by
  have hlist : ((attached covered).answer (.list ⟨.root, []⟩)).1 = .ok ["a.js"] := by
    decide
  have hflat : ∀ n ∈ ["a.js"],
      ((attached covered).answer (.isDirectory (top n))).1 = .ok false := by decide
  have htaken : Discovery.taken (attached covered) (Discovery.wanted .standard none none)
      ⟨.root, []⟩ ["a.js"] = ["a.js"] := by decide
  exact exec_candidates_of_flat hlist (List.pairwise_singleton _ _) hflat htaken .problem

theorem exists_exec_run_covered :
    ∃ report t u, (run ⟨.root, []⟩ .problem none false).exec (loaded .standard) (plain covered) =
      (.ok report, t, u) := by
  have hheld : (attached covered).Holds (top "a.js") ["a.js"] (Utf8.encode coveredText) :=
    ⟨by decide, rfl⟩
  have hread : ∀ p ∈ [top "a.js"], ∃ a, textOf (attached covered) p "utf-8" = .ok a :=
    List.forall_mem_singleton.mpr
      ⟨_, textOf_of_described hheld rfl Encoding.ofName?_utf8 (Encoding.decode_utf8_encode _)⟩
  have hwrite : ∀ p ∈ [top "a.js"], Writable (attached covered) .problem "utf-8" p :=
    fun _ _ => writable_of_described Encoding.ofName?_utf8 (by decide)
  obtain ⟨results, s₂, z, hall, -⟩ := exec_processAll (fun _ => ⟨rfl, rfl⟩)
    (fun p _ => apart_of_none rfl p) hread hwrite (List.pairwise_singleton _ _) (searched .problem)
  obtain ⟨t, u, hrun, -⟩ := exec_run_of_found candidates_covered hall
  exact ⟨_, t, u, hrun⟩

theorem again_unless_marked_covered :
    ∃ report t u z,
      (run ⟨.root, []⟩ .problem none false).exec (loaded .standard) (plain covered) =
        (.ok report, t, u) ∧
      ((run ⟨.root, []⟩ .problem (some .standard) false).exec (loaded .standard) u).2.2 = z ∧
      ∀ d, z.store.get? d = u.store.get? d ∨
        z.store.get? d = none ∧ Marked u .problem "utf-8" d := by
  obtain ⟨report, t, u, hrun⟩ := exists_exec_run_covered
  have hnamed : (plain covered).store.Named := by decide
  obtain ⟨z, hz⟩ : ∃ z,
      ((run ⟨.root, []⟩ .problem (some .standard) false).exec (loaded .standard) u).2.2 = z :=
    ⟨_, rfl⟩
  have hreads : ∀ codec, Codec.ofName? "utf-8" = some codec → codec.Rereads := fun _ =>
    Codec.rereads_of_described Encoding.ofName?_utf8 (by decide)
  have hagain := again_unless_marked.2 (unlogged_loaded (plain covered)) hnamed candidates_covered
    hrun (unlogged_loaded u) settings_of_candidates hreads hz
  exact ⟨report, t, u, z, hrun, hz, hagain⟩

end Run

end Handout
