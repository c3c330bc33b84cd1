import Mathlib
import Handout.Proofs.Discovery

/-!
# What a run does

A run whose candidates lead to different files, each with a text whose plan can be written, carries
the plan of every one of them out, and a dry run says beforehand what it will do
(`run_carries_out_plans`, `dry_run_foretells`). What can go wrong otherwise is seen in two small
stores. Where two candidates lead to one file, a dry run says of the second what the run then cannot
do (`dry_run_misses_second_name`). Where an encoding reads a character that it has no bytes for, a dry
run says that the file stays as it is, and the run empties the file (`run_empties_unwritable_file`).

A run that stops for a failure stops in its search, with no file changed but the log file made, or at
one of the candidates, with those before it processed and nothing done to it or to those after it
(`stopped_of_failure`).

**What it does not establish.** Of a run whose log file is among its candidates, only where it stops
is told. What it reads there depends on the records made so far, and those of a dry run are others.
That what is planned can be written is shown of the described encodings alone.
-/

namespace Handout

namespace Run

open Act Processing World

variable {root : Path} {v : Variant} {settings : Option Settings} {dryRun : Bool}
  {s s₁ t : Session} {w w₁ u : World} {st : Settings} {paths : List Path}

/-! ## Two small stores -/

/-- A file of the solution, and a file that both variants share. -/
def twoFiles : Store :=
  ⟨[(["a.js"], .file "/* SOLUTION FILE */\n".toUTF8.toList), (["b.js"], .file "x\n".toUTF8.toList)],
    by decide⟩

/-- A file of the solution under two names. -/
def twoNames : Store :=
  ⟨[(["a.js"], .file "/* SOLUTION FILE */\n".toUTF8.toList), (["b.js"], .link "a.js")], by decide⟩

theorem candidates_twoFiles :
    (candidates ⟨.root, []⟩ .problem none).exec (loaded .standard) (plain twoFiles) =
      (.ok (.standard, [top "a.js", top "b.js"]), searched .problem, attached twoFiles) := by
  have hlist : ((attached twoFiles).answer (.list ⟨.root, []⟩)).1 = .ok ["a.js", "b.js"] := by
    decide
  have hflat : ∀ n ∈ ["a.js", "b.js"],
      ((attached twoFiles).answer (.isDirectory (top n))).1 = .ok false := by decide
  have htaken : Discovery.taken (attached twoFiles) (Discovery.wanted .standard none none) ⟨.root, []⟩
      ["a.js", "b.js"] = ["a.js", "b.js"] := by decide
  exact exec_candidates_of_flat hlist (by decide) hflat htaken .problem

theorem holds_twoFiles :
    (attached twoFiles).Holds (top "a.js") ["a.js"] "/* SOLUTION FILE */\n".toUTF8.toList ∧
      (attached twoFiles).Holds (top "b.js") ["b.js"] "x\n".toUTF8.toList :=
  ⟨⟨by decide, rfl⟩, by decide, rfl⟩

theorem textOf_twoFiles :
    textOf (attached twoFiles) (top "a.js") "utf-8" =
        .ok (Encoding.utf8.codec, "/* SOLUTION FILE */\n".toList) ∧
      textOf (attached twoFiles) (top "b.js") "utf-8" = .ok (Encoding.utf8.codec, "x\n".toList) :=
  ⟨textOf_of_described holds_twoFiles.1 rfl Encoding.ofName?_utf8 (by decide +kernel),
    textOf_of_described holds_twoFiles.2 rfl Encoding.ofName?_utf8 (by decide +kernel)⟩

/-- A dry run deletes the one, and finds nothing to change in the other. -/
theorem foretold_twoFiles :
    List.Forall₂ (Foretold (attached twoFiles) .problem "utf-8") [top "a.js", top "b.js"]
      [⟨top "a.js", .deleted, true⟩, ⟨top "b.js", .rewritten, false⟩] := by
  have hshared : Variant.problem.transform "x\n".toList = "x\n".toList := by
    rw [Variant.transform_eq_kept]
    decide
  refine .cons ⟨_, _, textOf_twoFiles.1, rfl⟩ (.cons ⟨_, _, textOf_twoFiles.2, ?_⟩ .nil)
  rw [Plan.of, hshared]
  rfl

theorem pairwise_twoFiles :
    [top "a.js", top "b.js"].Pairwise fun p q =>
      (plain twoFiles).find true p ≠ (plain twoFiles).find true q :=
  List.pairwise_pair.mpr (by decide)

theorem candidates_twoNames :
    (candidates ⟨.root, []⟩ .problem none).exec (loaded .standard) (plain twoNames) =
      (.ok (.standard, [top "a.js", top "b.js"]), searched .problem, attached twoNames) := by
  have hlist : ((attached twoNames).answer (.list ⟨.root, []⟩)).1 = .ok ["a.js", "b.js"] := by
    decide
  have hflat : ∀ n ∈ ["a.js", "b.js"],
      ((attached twoNames).answer (.isDirectory (top n))).1 = .ok false := by decide
  have htaken : Discovery.taken (attached twoNames) (Discovery.wanted .standard none none) ⟨.root, []⟩
      ["a.js", "b.js"] = ["a.js", "b.js"] := by decide
  exact exec_candidates_of_flat hlist (by decide) hflat htaken .problem

/-- Both names lead to the text of the file. -/
theorem textOf_twoNames : ∀ n ∈ ["a.js", "b.js"], textOf (attached twoNames) (top n) "utf-8" =
    .ok (Encoding.utf8.codec, "/* SOLUTION FILE */\n".toList) := by
  have hfound : ∀ n ∈ ["a.js", "b.js"], (attached twoNames).find true (top n) = .ok ["a.js"] := by
    decide
  exact fun n hn =>
    textOf_of_described ⟨hfound n hn, rfl⟩ rfl Encoding.ofName?_utf8 (by decide +kernel)

/-- The first name takes the file away. -/
theorem attempt_twoNames :
    attempt (attached twoNames) (top "a.js") .problem "utf-8" false =
      (.ok ⟨top "a.js", .deleted, true⟩, (attached twoNames).erase ["a.js"]) := by
  have hplan : Plan.of .problem "/* SOLUTION FILE */\n".toList = .delete :=
    Plan.of_eq_delete.mpr (by decide)
  have hdoomed : (attached twoNames).unless? .delete (top "a.js")
      ((attached twoNames).doomed (top "a.js")) = .ok ["a.js"] := by decide
  rw [attempt, textOf_twoNames _ List.mem_cons_self]
  simp only [hplan, enactUnless, Bool.false_eq_true, if_false, enact, hdoomed]
  rfl

/-- The second name then leads to nothing. -/
theorem textOf_twoNames_erased :
    textOf ((attached twoNames).erase ["a.js"]) (top "b.js") "utf-8" =
      .error (.failure ⟨top "b.js", .read, "No such file or directory"⟩) := by
  have hread : ((attached twoNames).erase ["a.js"]).unless? .read (top "b.js")
      (((attached twoNames).erase ["a.js"]).read (top "b.js")) = .error .absent := by
    decide
  rw [textOf, hread]
  rfl

/-- **A run stops at the second name**, when the file is gone with the first. -/
theorem exec_run_twoNames :
    ∃ t u, (run ⟨.root, []⟩ .problem none false).exec (loaded .standard) (plain twoNames) =
      (.error (.failure ⟨top "b.js", .read, "No such file or directory"⟩), t, u) := by
  have hfirst := comesTo_processFile (attached twoNames) (top "a.js") .problem "utf-8" false
    (searched .problem)
  rw [attempt_twoNames] at hfirst
  obtain ⟨t, u, hfirst, hnoted⟩ := hfirst
  have hsecond := comesTo_processFile u (top "b.js") .problem "utf-8" false t
  have hgone : attempt u (top "b.js") .problem "utf-8" false =
      (.error (.failure ⟨top "b.js", .read, "No such file or directory"⟩), u) := by
    rw [attempt, textOf_of_noted hnoted (apart_of_none rfl _), textOf_twoNames_erased]
  rw [hgone] at hsecond
  obtain ⟨t', hrun⟩ := exec_run_error_of_found candidates_twoNames (exec_bind_eq_error.mpr
    (.inr ⟨_, t, u, hfirst, exec_bind_eq_error.mpr (.inl (exec_bind_eq_error.mpr (.inl hsecond)))⟩))
  exact ⟨t', u, hrun⟩

/-! ## Runs that come to their end -/

/-- **A run carries the plans of its files out.** Where every candidate leads to a file of its own
that has a text, and what is planned for it can be written, there is one result for each, in their
order, told by the plan of the text that the file had before the run; afterwards the plans are carried
out. A dry run has the same results and leaves all files as they were. -/
theorem run_carries_out_plans [Codecs]
    (hfound : (candidates root v settings).exec s w = (.ok (st, paths), s₁, w₁))
    (hlog : w₁.log = none) (hw : Unhindered w)
    (hread : ∀ p ∈ paths, ∃ a, textOf w p st.processing.encoding = .ok a)
    (hwrite : ∀ p ∈ paths, Writable w v st.processing.encoding p)
    (hne : paths.Pairwise fun p q => w.find true p ≠ w.find true q) :
    ∃ results t u t' u',
      (run root v settings false).exec s w = (.ok ⟨root, v, false, results⟩, t, u) ∧
      List.Forall₂ (Done w u v st.processing.encoding) paths results ∧
      (run root v settings true).exec s w = (.ok ⟨root, v, true, results⟩, t', u') ∧
      u'.store = w.store := by
  have hsame := sameFiles_of_candidates hfound hlog
  have hapart : ∀ p ∈ paths, w₁.Apart p := fun p _ => apart_of_none hlog p
  obtain ⟨results, t, z, hreal, hprocessed⟩ :=
    exec_processAll (hw.congr hsame.directory hsame.faults) hapart
      (fun p hp => by rw [textOf_of_sameFiles hsame]; exact hread p hp)
      (fun p hp => (hwrite p hp).congr (textOf_of_sameFiles hsame p))
      (by simpa only [hsame.find] using hne) s₁
  obtain ⟨t₁, u, hrun, hnoted⟩ := exec_run_of_found hfound hreal
  obtain ⟨t', z', hdry, hleft⟩ :=
    exec_processAll_dry hapart (hprocessed.done.imp fun _ _ hd => hd.foretold) s₁
  obtain ⟨t₂, u', hdryrun, hnoted'⟩ := exec_run_of_found hfound hdry
  refine ⟨results, t₁, u, t₂, u', hrun, ?_, hdryrun, ?_⟩
  · have hz := hnoted.sameFiles (hprocessed.log.trans hlog)
    exact hprocessed.done.imp fun p r hd => hd.of_sameFiles hsame hz
  · exact (hsame.trans ((hleft.trans hnoted').sameFiles hlog)).store

/-- What is planned for the two files can be written. -/
theorem writable_of_utf8 {w : World} : ∀ p ∈ [top "a.js", top "b.js"], Writable w .problem "utf-8" p :=
  fun _ _ => writable_of_described Encoding.ofName?_utf8 (by decide)

theorem run_carries_out_two_plans :
    ∃ results t u t' u',
      (run ⟨.root, []⟩ .problem none false).exec (loaded .standard) (plain twoFiles) =
        (.ok ⟨⟨.root, []⟩, .problem, false, results⟩, t, u) ∧
      List.Forall₂ (Done (plain twoFiles) u .problem "utf-8") [top "a.js", top "b.js"] results ∧
      (run ⟨.root, []⟩ .problem none true).exec (loaded .standard) (plain twoFiles) =
        (.ok ⟨⟨.root, []⟩, .problem, true, results⟩, t', u') ∧
      u'.store = (plain twoFiles).store :=
  have hread : ∀ p ∈ [top "a.js", top "b.js"], ∃ a, textOf (plain twoFiles) p "utf-8" = .ok a :=
    List.forall_mem_cons.mpr ⟨⟨_, textOf_twoFiles.1⟩,
      List.forall_mem_singleton.mpr ⟨_, textOf_twoFiles.2⟩⟩
  run_carries_out_plans candidates_twoFiles rfl (fun _ => ⟨rfl, rfl⟩) hread writable_of_utf8
    pairwise_twoFiles

/-! ### A file that its encoding cannot write -/

/-- The standard settings for files in the encoding that switches. -/
def inSwitched : Settings :=
  { Settings.standard with
    processing := { Settings.standard.processing with encoding := "iso2022_jp" } }

/-- A file in which an escape is followed by a byte that stands for itself then. -/
def escapedFile : Store :=
  ⟨[(["a.js"], .file [0x78, 0x1B, 0x80, 0x0A])], List.pairwise_singleton _ _⟩

theorem candidates_escapedFile :
    (candidates ⟨.root, []⟩ .problem (some inSwitched)).exec (loaded .standard) (plain escapedFile) =
      (.ok (inSwitched, [top "a.js"]), searched .problem, attached escapedFile) := by
  cbv

theorem textOf_escapedFile :
    textOf (attached escapedFile) (top "a.js") "iso2022_jp" =
      .ok (Encoding.switched.codec, ['x', '\x1b', '\x80', '\n']) :=
  textOf_of_described (l := ["a.js"]) ⟨by decide, rfl⟩ rfl rfl (by decide)

/-- The text has no markers. -/
theorem plan_escapedFile :
    Plan.of .problem ['x', '\x1b', '\x80', '\n'] = .rewrite ['x', '\x1b', '\x80', '\n'] := by
  rw [Plan.of, Variant.transform_eq_kept]
  rfl

/-- What is said of the character after the escape. -/
def escapedFault : String :=
  "'iso2022_jp' codec can't encode character '\\x80' in position 2: illegal multibyte sequence"

/-- The file is opened to be written, and then its text is refused. -/
theorem attempt_escapedFile :
    attempt (attached escapedFile) (top "a.js") .problem "iso2022_jp" false =
      (.error (@Stop.unencodable escapedFault), (attached escapedFile).put ["a.js"] (.file [])) := by
  have hcode : Encoding.switched.codec.encode ['x', '\x1b', '\x80', '\n'] =
      .error (.fault escapedFault) := by decide +kernel
  have htarget : (attached escapedFile).unless? .write (top "a.js")
      ((attached escapedFile).target (top "a.js")) = .ok ["a.js"] := by decide
  rw [attempt, textOf_escapedFile]
  simp only [plan_escapedFile, enactUnless, Bool.false_eq_true, if_false, enact, htarget, hcode]
  rfl

/-- **A run empties a file that it cannot write.** The only candidate can be read and is a text of the
encoding, which the variant keeps as it is; a dry run says so. The run stops, and nothing is left in the
file. -/
theorem run_empties_unwritable_file :
    (candidates ⟨.root, []⟩ .problem (some inSwitched)).exec (loaded .standard) (plain escapedFile) =
      (.ok (inSwitched, [top "a.js"]), searched .problem, attached escapedFile) ∧
    (attached escapedFile).log = none ∧ Unhindered (plain escapedFile) ∧
    textOf (plain escapedFile) (top "a.js") "iso2022_jp" =
      .ok (Encoding.switched.codec, ['x', '\x1b', '\x80', '\n']) ∧
    (∃ t u, (run ⟨.root, []⟩ .problem (some inSwitched) true).exec (loaded .standard)
      (plain escapedFile) =
        (.ok ⟨⟨.root, []⟩, .problem, true, [⟨top "a.js", .rewritten, false⟩]⟩, t, u)) ∧
    ∃ t u, (run ⟨.root, []⟩ .problem (some inSwitched) false).exec (loaded .standard)
        (plain escapedFile) = (.error (@Stop.unencodable escapedFault), t, u) ∧
      u.store.get? ["a.js"] = some (.file []) := by
  refine ⟨candidates_escapedFile, rfl, fun _ => ⟨rfl, rfl⟩, textOf_escapedFile, ?_, ?_⟩
  · have hforetold : List.Forall₂ (Foretold (attached escapedFile) .problem "iso2022_jp")
        [top "a.js"] [⟨top "a.js", .rewritten, false⟩] :=
      .cons ⟨_, _, textOf_escapedFile, by rw [plan_escapedFile]; rfl⟩ .nil
    obtain ⟨t, u, hall, -⟩ :=
      exec_processAll_dry (fun p _ => apart_of_none rfl p) hforetold (searched .problem)
    obtain ⟨t', u', hrun, -⟩ := exec_run_of_found candidates_escapedFile hall
    exact ⟨t', u', hrun⟩
  · have hfile := comesTo_processFile (attached escapedFile) (top "a.js") .problem "iso2022_jp" false
      (searched .problem)
    rw [attempt_escapedFile] at hfile
    obtain ⟨t', hrun⟩ := exec_run_error_of_found candidates_escapedFile
      (exec_bind_eq_error.mpr (.inl hfile))
    exact ⟨t', _, hrun, rfl⟩

/-! ### What a dry run says -/

/-- **A dry run foretells the run.** Where every candidate leads to a file of its own, none of them to
the log file, and what is planned for each can be written, a run comes to its end when the dry run does,
and with the same results. -/
theorem dry_run_foretells [Codecs] {report : RunReport}
    (hfound : (candidates root v settings).exec s w = (.ok (st, paths), s₁, w₁))
    (hlog : ∀ p ∈ paths, w₁.Apart p) (hw : Unhindered w)
    (hwrite : ∀ p ∈ paths, Writable w₁ v st.processing.encoding p)
    (hne : paths.Pairwise fun p q => w₁.find true p ≠ w₁.find true q)
    (hdry : (run root v settings true).exec s w = (.ok report, t, u)) :
    ∃ t' u', (run root v settings false).exec s w =
      (.ok { report with dryRun := false }, t', u') := by
  rcases hall : (processAll v st.processing.encoding true paths).exec s₁ w₁ with
    ⟨e | results, t₁, z⟩
  · obtain ⟨t', hstop⟩ := exec_run_error_of_found hfound hall
    rw [hstop] at hdry
    cases hdry
  · obtain ⟨t', u₁, hend, -⟩ := exec_run_of_found hfound hall
    rw [hend] at hdry
    cases hdry
    -- the dry run got to its end, so every candidate has a text
    have hforetold := forall₂_foretold_of_exec hlog hall
    obtain ⟨hdirectory, hfaults⟩ := fixed_of_candidates hfound
    obtain ⟨results', t₂, z', hreal, hprocessed⟩ :=
      exec_processAll (hw.congr hdirectory hfaults) hlog (exists_textOf_of_foretold hforetold)
        hwrite hne s₁
    obtain rfl := forall₂_foretold_unique hforetold
      (hprocessed.done.imp fun _ _ hd => hd.foretold)
    obtain ⟨t₃, u₂, hrun, -⟩ := exec_run_of_found hfound hreal
    exact ⟨t₃, u₂, hrun⟩

theorem dry_run_foretells_two_files :
    ∃ t u t' u',
      (run ⟨.root, []⟩ .problem none true).exec (loaded .standard) (plain twoFiles) =
        (.ok ⟨⟨.root, []⟩, .problem, true,
          [⟨top "a.js", .deleted, true⟩, ⟨top "b.js", .rewritten, false⟩]⟩, t, u) ∧
      (run ⟨.root, []⟩ .problem none false).exec (loaded .standard) (plain twoFiles) =
        (.ok ⟨⟨.root, []⟩, .problem, false,
          [⟨top "a.js", .deleted, true⟩, ⟨top "b.js", .rewritten, false⟩]⟩, t', u') := by
  have hapart : ∀ p ∈ [top "a.js", top "b.js"], (attached twoFiles).Apart p :=
    fun p _ => apart_of_none rfl p
  obtain ⟨t, u, hall, -⟩ := exec_processAll_dry hapart foretold_twoFiles (searched .problem)
  obtain ⟨t, u, hdry, -⟩ := exec_run_of_found candidates_twoFiles hall
  obtain ⟨t', u', hrun⟩ := dry_run_foretells candidates_twoFiles hapart (fun _ => ⟨rfl, rfl⟩)
    writable_of_utf8 pairwise_twoFiles hdry
  exact ⟨t, u, t', u', hdry, hrun⟩

/-- **A file under two names**: a dry run says that both are deleted, and the run stops at the second
name, with the first one deleted. -/
theorem dry_run_misses_second_name :
    Unhindered (plain twoNames) ∧
    (∃ t u, (run ⟨.root, []⟩ .problem none true).exec (loaded .standard) (plain twoNames) =
      (.ok ⟨⟨.root, []⟩, .problem, true,
        [⟨top "a.js", .deleted, true⟩, ⟨top "b.js", .deleted, true⟩]⟩, t, u)) ∧
    ∃ t u, (run ⟨.root, []⟩ .problem none false).exec (loaded .standard) (plain twoNames) =
      (.error (.failure ⟨top "b.js", .read, "No such file or directory"⟩), t, u) := by
  refine ⟨fun _ => ⟨rfl, rfl⟩, ?_, ?_⟩
  · have hforetold : List.Forall₂ (Foretold (attached twoNames) .problem "utf-8")
        [top "a.js", top "b.js"] [⟨top "a.js", .deleted, true⟩, ⟨top "b.js", .deleted, true⟩] :=
      .cons ⟨_, _, textOf_twoNames _ List.mem_cons_self, rfl⟩
        (.cons ⟨_, _, textOf_twoNames _ (List.mem_cons_of_mem _ List.mem_cons_self), rfl⟩ .nil)
    obtain ⟨t, u, hall, -⟩ :=
      exec_processAll_dry (fun p _ => apart_of_none rfl p) hforetold (searched .problem)
    obtain ⟨t', u', hrun, -⟩ := exec_run_of_found candidates_twoNames hall
    exact ⟨t', u', hrun⟩
  · exact exec_run_twoNames

/-! ## Runs that stop for a failure -/

/-- **Where a run stopped for a failure**: in its search, or at one of the candidates. The relation is
how far a search may move the world, records apart. -/
inductive Stopped [Codecs] (R : World → World → Prop) (root : Path) (v : Variant)
    (settings : Option Settings) (dryRun : Bool) (s : Session) (w : World) (f : Failure)
    (u : World) : Prop
  /-- No candidates were found. -/
  | searching {t : Session}
      (search : (candidates root v settings).exec s w = (.error (.failure f), t, u))
      (moved : R w u)
  /-- The candidates before one were processed, that one could not be and nothing was done to it, and
  what came after it does not matter. -/
  | processing {st : Settings} {paths : List Path} {s₁ t : Session} {w₁ : World}
      {results : List FileResult} (k : Nat) (hk : k < paths.length)
      (search : (candidates root v settings).exec s w = (.ok (st, paths), s₁, w₁))
      (moved : ∃ w₀, R w w₀ ∧ w₀.Noted w₁)
      (path : f.path = paths[k])
      (before : (processAll v st.processing.encoding dryRun (paths.take k)).exec s₁ w₁ =
        (.ok results, t, u))
      (failing : (processFile paths[k] v (some st.processing.encoding) dryRun).exec t u =
        (.error (.failure f), t, u))
      (after : ∀ rest,
        (processAll v st.processing.encoding dryRun (paths.take k ++ paths[k] :: rest)).exec s₁ w₁ =
          (.error (.failure f), t, u))

/-- **A run that stops for a failure** stops in its search, with the world only made ready for
logging, or at one of its candidates. -/
theorem stopped_of_failure [Codecs] {f : Failure}
    (h : (run root v settings dryRun).exec s w = (.error (.failure f), t, u)) :
    Stopped (Log.Readies s) root v settings dryRun s w f u := by
  rcases hsearch : (candidates root v settings).exec s w with ⟨e | ⟨st, paths⟩, s₁, w₁⟩
  · obtain ⟨t', hrun⟩ := exec_run_of_failed hsearch dryRun
    rw [hrun] at h
    cases h
    exact .searching hsearch (readied_of_failed hsearch)
  · rcases hall : (processAll v st.processing.encoding dryRun paths).exec s₁ w₁ with
      ⟨e | results, s₂, w₂⟩
    · obtain ⟨t', hrun⟩ := exec_run_error_of_found hsearch hall
      rw [hrun] at h
      cases h
      obtain ⟨k, hk, results, u₁, hbefore, hfailing, hafter⟩ := exec_processAll_error hall
      obtain ⟨hattempt, -⟩ := (comesTo_processFile _ _ _ _ _ _).eq_error hfailing
      obtain ⟨rfl, hpath⟩ := eq_of_attempt_failure hattempt
      exact .processing k hk hsearch (readied_of_candidates hsearch) hpath hbefore hfailing hafter
    · obtain ⟨t', u', hrun, -⟩ := exec_run_of_found hsearch hall
      rw [hrun] at h
      cases h

theorem stopped_at_second_name :
    ∃ t u, (run ⟨.root, []⟩ .problem none false).exec (loaded .standard) (plain twoNames) =
        (.error (.failure ⟨top "b.js", .read, "No such file or directory"⟩), t, u) ∧
      Stopped (Log.Readies (loaded .standard)) ⟨.root, []⟩ .problem none false (loaded .standard)
        (plain twoNames)
        ⟨top "b.js", .read, "No such file or directory"⟩ u := by
  obtain ⟨t, u, hrun⟩ := exec_run_twoNames
  exact ⟨t, u, hrun, stopped_of_failure hrun⟩

/-- The standard settings with a log file. -/
def logged : Settings :=
  { Settings.standard with general := { Settings.standard.general with logFile := some "run.log" } }

/-- **A search that fails may leave a log file**: where one is asked for, it is made before the search,
and a run below a root that is not there stops with one file more than before. -/
theorem failed_search_makes_log_file :
    ∃ f t u, (run (top "missing") .problem none false).exec (loaded logged) (plain .empty) =
        (.error (.failure f), t, u) ∧
      ¬ Stopped (fun w u => u.store = w.store) (top "missing") .problem none false (loaded logged)
        (plain .empty) f u := by
  have hsearch : (candidates (top "missing") .problem none).exec (loaded logged) (plain .empty) =
      (.error (.failure ⟨top "missing", .list, "No such file or directory"⟩),
        ⟨some logged, ⟨some .console, .standard, []⟩, context (top "missing") .problem⟩,
        (plain .empty).attachFile ["run.log"]) := by
    cbv
  obtain ⟨t, hrun⟩ := exec_run_of_failed hsearch false
  refine ⟨_, t, _, hrun, fun hstopped => ?_⟩
  cases hstopped with
  | searching search moved =>
    have hlog : ((plain .empty).attachFile ["run.log"]).store.get? ["run.log"] = none :=
      congrArg (Store.get? · ["run.log"]) moved
    cases hlog
  | processing k hk search _ _ _ _ =>
    rw [hsearch] at search
    cases search

end Run

end Handout
