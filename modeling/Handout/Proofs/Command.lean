import Handout.CommandLine
import Handout.Proofs.Calls
import Handout.Proofs.Runs

/-!
# What the command tells

The command tells of a run by what it prints, by its status, and by a line on the error output. The
three agree, and with what the run came to (`respond_tells_run`): the status line comes first and
before anything is done to a file, a dry run that comes to its end is told file by file, and a run that
stops for a failure is told by its message on the error output and by nothing more that is printed.

An invocation is carried out in three parts: preparations, the status line, and the rest (`conclude`).
The preparations neither print nor put other bytes into a file, and a run does not print, so what is
printed after the status line is what the rest prints when the run is over.

**What it does not establish.** Nothing is said of arguments that are refused, of logging that cannot be
set up, or of runs that stop for a cause that is no failure; the command has no status of its own for
these last two.
-/

namespace Handout

open Act

namespace Run

/-- **A run completes**: it finds its files, and every one of them is processed. -/
def Completes [Codecs] (root : Path) (v : Variant) (dryRun : Bool) (s : Session) (w : World) :
    Prop :=
  ∃ st paths s₁ w₁ results s₂ w₂,
    (candidates root v none).exec s w = (.ok (st, paths), s₁, w₁) ∧
    (processAll v st.processing.encoding dryRun paths).exec s₁ w₁ = (.ok results, s₂, w₂)

theorem completes_iff [Codecs] {root : Path} {v : Variant} {dryRun : Bool} {s : Session}
    {w : World} :
    Completes root v dryRun s w ↔
      ∃ report t u, (run root v none dryRun).exec s w = (.ok report, t, u) := by
  constructor
  · rintro ⟨st, paths, s₁, w₁, results, s₂, w₂, hsearch, hall⟩
    obtain ⟨t, u, hrun, -⟩ := exec_run_of_found hsearch hall
    exact ⟨_, t, u, hrun⟩
  · rintro ⟨report, t, u, hrun⟩
    obtain ⟨st, paths, s₁, w₁, results, s₂, w₂, hsearch, hall, -, -⟩ := exists_of_exec_run hrun
    exact ⟨st, paths, s₁, w₁, results, s₂, w₂, hsearch, hall⟩

end Run

namespace CommandLine

variable {args : List String} {i : Invocation} {root : Path} {v : Variant} {dryRun : Bool}
  {s s₁ t : Session} {w w₁ u : World}

/-- The root that an invocation names. -/
def rootOf (w : World) (i : Invocation) : Path :=
  Path.resolve w.here (Path.ofText i.path)

/-- The line that comes before a run. -/
def statusLine (v : Variant) (root : Path) : String :=
  statusVerb v ++ " " ++ root.text ++ "\n"

/-- The line that a dry run tells of a file. -/
def planLine (action : FileAction) (p : Path) : String :=
  announcement action ++ " " ++ p.text ++ "\n"

/-- **What a dry run tells of a file**: what the plan does that is made from its text. The text is
read in its turn, when records may have been written. -/
def Told [Codecs] (w : World) (v : Variant) (encoding : String) (p : Path) (line : String) : Prop :=
  ∃ w' codec text, w.Noted w' ∧ Processing.textOf w' p encoding = .ok (codec, text) ∧
    line = planLine (Plan.of v text).action p

/-- **What is told of files** that are apart from the log is what was foretold of them. -/
theorem eq_of_told [Codecs] {encoding : String} {paths : List Path} {lines : List String}
    {results : List FileResult} (ha : ∀ p ∈ paths, w.Apart p)
    (h : List.Forall₂ (Told w v encoding) paths lines)
    (hr : List.Forall₂ (Processing.Foretold w v encoding) paths results) :
    lines = results.map fun r => planLine r.action r.path := by
  induction h generalizing results with
  | nil =>
    cases hr
    rfl
  | cons hline _ ih =>
    obtain ⟨hap, haps⟩ := List.forall_mem_cons.mp ha
    cases hr with
    | cons hp hps =>
      obtain ⟨w', codec, text, hnoted, ht, rfl⟩ := hline
      obtain ⟨codec', text', ht', rfl⟩ := hp
      rw [Processing.textOf_of_noted hnoted hap, ht'] at ht
      cases ht
      rw [List.map_cons, ← ih haps hps, FileResult.ofPlan_action, FileResult.ofPlan_path]

/-- **How the command closes** from the world in which the status line is printed: the status, the
lines that are printed after that one, and the world at the end. -/
inductive Closing [Codecs] (root : Path) (v : Variant) (dryRun : Bool) (s : Session) (w : World) :
    ExitStatus → List String → World → Prop
  /-- The run found its files and processed all of them. A dry run is told in the order in which they
  were found. -/
  | completed {st : Settings} {paths : List Path} {s₁ s₂ : Session} {w₁ w₂ z : World}
      {results : List FileResult} {lines : List String}
      (search : (Run.candidates root v none).exec s w = (.ok (st, paths), s₁, w₁))
      (processed : (Run.processAll v st.processing.encoding dryRun paths).exec s₁ w₁ =
        (.ok results, s₂, w₂))
      (dry : dryRun = true → List.Forall₂ (Told w₁ v st.processing.encoding) paths lines)
      (wet : dryRun = false → lines = []) :
      Closing root v dryRun s w .success lines z
  /-- The run stopped for a failure, which is the last that the error output tells of. -/
  | aborted {f : Failure} {t : Session} {u z : World}
      (stopped : (run root v none dryRun).exec s w = (.error (.failure f), t, u))
      (notice : z.notices.head? = some (.text ("Error: " ++ f.toReport.message ++ "\n"))) :
      Closing root v dryRun s w .filesystem [] z

/-! ## The parts of the command -/

/-- What the command does after its status line. -/
def conclude [Codecs] (root : Path) (v : Variant) (dryRun : Bool) : Act Ending := do
  match ← (run root v none dryRun).outcome with
  | .ok report =>
    if dryRun then announce report.results
    return .finished .success
  | .error (.failure f) => abort f.toReport
  | .error e => throw e

/-- An invocation is carried out in its parts. -/
theorem perform_eq [Codecs] (i : Invocation) :
    perform i =
      Log.configure (if i.verbose then some "DEBUG" else none) none none >>= fun _ =>
        call .directory >>= fun cwd =>
          call (.print (statusLine i.variant (Path.resolve cwd (Path.ofText i.path)))) >>= fun _ =>
            conclude (Path.resolve cwd (Path.ofText i.path)) i.variant i.dryRun :=
  rfl

/-- **The command once logging is set up**: it asks for the working directory, prints the status line,
and concludes. -/
theorem respond_of_configured [Codecs] (hargs : Invocation.ofArguments args = .ok i)
    (hready : (Log.configure (if i.verbose then some "DEBUG" else none) none none).exec s w =
      (.ok (), s₁, w₁)) :
    (respond args).exec s w = (conclude (rootOf w i) i.variant i.dryRun).exec s₁
        (w₁.answer (.print (statusLine i.variant (rootOf w i)))).2 ∧
    (respond args).calls s w =
      (Log.configure (if i.verbose then some "DEBUG" else none) none none).calls s w ++ [.directory] ++
        .print (statusLine i.variant (rootOf w i)) ::
          (conclude (rootOf w i) i.variant i.dryRun).calls s₁
            (w₁.answer (.print (statusLine i.variant (rootOf w i)))).2 := by
  obtain ⟨_, _, -, hreadied⟩ := Log.exec_configure hready
  have hhere : w₁.here = w.here := congrArg (Path.mk .root) hreadied.fixed.1
  have hroot : rootOf w i = Path.resolve w₁.here (Path.ofText i.path) := by rw [rootOf, hhere]
  have hperform : respond args = perform i := by rw [respond, hargs]
  rw [hperform, perform_eq, hroot]
  constructor
  · rw [exec_bind, hready]
    rfl
  · rw [calls_bind, hready, List.append_assoc]
    rfl

/-! ## The end of the command -/

theorem calls_announce (results : List FileResult) (s : Session) (w : World) :
    (announce results).calls s w = results.map fun r => .print (planLine r.action r.path) := by
  induction results generalizing w with
  | nil => rfl
  | cons r rs ih =>
    rw [announce, calls_bind, List.map_cons]
    exact congrArg (.print (planLine r.action r.path) :: ·) (ih _)

theorem exec_announce (results : List FileResult) (s : Session) (w : World) :
    ∃ u, (announce results).exec s w = (.ok (), s, u) := by
  induction results generalizing w with
  | nil => exact ⟨w, rfl⟩
  | cons r rs ih =>
    obtain ⟨u, hrest⟩ := ih (w.answer (.print (planLine r.action r.path))).2
    exact ⟨u, exec_bind_eq_ok.mpr ⟨_, _, _, rfl, hrest⟩⟩

/-- **After a run that came to a report**, a dry run is told and nothing else is. -/
theorem conclude_of_report [Codecs] {report : RunReport}
    (hrun : (run root v none dryRun).exec s w = (.ok report, t, u)) :
    (∃ t' z, (conclude root v dryRun).exec s w = (.ok (.finished .success), t', z)) ∧
    ((conclude root v dryRun).calls s w).filterMap Call.printed? =
      if dryRun then report.results.map fun r => planLine r.action r.path else [] := by
  have hquiet := (asks_run root v none dryRun).filterMap_printed? s w
  have houtcome := exec_outcome (run root v none dryRun) s w
  rw [hrun] at houtcome
  constructor
  · cases dryRun with
    | false => exact ⟨t, u, exec_bind_eq_ok.mpr ⟨_, _, _, houtcome, rfl⟩⟩
    | true =>
      obtain ⟨z, hannounce⟩ := exec_announce report.results t u
      exact ⟨t, z, exec_bind_eq_ok.mpr ⟨_, _, _, houtcome,
        exec_bind_eq_ok.mpr ⟨_, _, _, hannounce, rfl⟩⟩⟩
  · rw [conclude, calls_bind, calls_outcome, houtcome, List.filterMap_append, hquiet, List.nil_append]
    cases dryRun with
    | false => rfl
    | true =>
      obtain ⟨z, hannounce⟩ := exec_announce report.results t u
      simp only [if_true]
      rw [calls_bind, hannounce, calls_announce, List.filterMap_append, List.filterMap_map]
      exact (List.append_nil _).trans (congrFun List.filterMap_eq_map _)

theorem status_toReport (f : Failure) : f.toReport.status = .filesystem := by
  rw [Failure.toReport, ErrorReport.file]
  split <;> rfl

/-- **After a run that stopped for a failure**, the failure is told on the error output and nothing is
printed. -/
theorem conclude_of_failure [Codecs] {f : Failure}
    (hrun : (run root v none dryRun).exec s w = (.error (.failure f), t, u)) :
    (∃ t' z, (conclude root v dryRun).exec s w = (.ok (.finished .filesystem), t', z) ∧
      z.notices.head? = some (.text ("Error: " ++ f.toReport.message ++ "\n"))) ∧
    ((conclude root v dryRun).calls s w).filterMap Call.printed? = [] := by
  have hquiet := (asks_run root v none dryRun).filterMap_printed? s w
  have houtcome := exec_outcome (run root v none dryRun) s w
  rw [hrun] at houtcome
  constructor
  · obtain ⟨t', z, hevent, -⟩ :=
      Log.exec_event logger .error "run_aborted" f.toReport.toFields t u
    have hcomplain : (complain ("Error: " ++ f.toReport.message)).exec t' z =
        (.ok (), t', (z.answer (.complain ("Error: " ++ f.toReport.message ++ "\n"))).2) := rfl
    refine ⟨t', (z.answer (.complain ("Error: " ++ f.toReport.message ++ "\n"))).2, ?_, rfl⟩
    rw [← status_toReport f]
    exact exec_bind_eq_ok.mpr ⟨_, _, _, houtcome,
      exec_bind_eq_ok.mpr ⟨_, _, _, hevent, exec_bind_eq_ok.mpr ⟨_, _, _, hcomplain, rfl⟩⟩⟩
  · rw [conclude, calls_bind, calls_outcome, houtcome, List.filterMap_append, hquiet, List.nil_append]
    have habort : Asks Call.Quiet (abort f.toReport) :=
      .bind (Log.asks_event _ _ _ _) fun _ => .bind (asks_call rfl) fun _ => asks_pure _
    exact habort.filterMap_printed? t u

/-- A dry run is told in the order in which its files were found. -/
theorem forall₂_told [Codecs] {encoding : String} {paths : List Path} {results : List FileResult}
    (h : (Run.processAll v encoding true paths).exec s w = (.ok results, t, u)) :
    List.Forall₂ (Told w v encoding) paths (results.map fun r => planLine r.action r.path) := by
  rw [List.forall₂_map_right_iff]
  refine (Processing.forall₂_foretold_in_turn h).imp ?_
  rintro p r ⟨w', hnoted, codec, text, htext, rfl⟩
  refine ⟨w', codec, text, hnoted, htext, ?_⟩
  rw [FileResult.ofPlan_action, FileResult.ofPlan_path]

/-- **What the command tells.** Where logging can be set up and the run stops for failures only, the
status line is printed first, with nothing done to a file before it. After it comes what a dry run tells
of its files, if it came to its end, and nothing else. The status is that of success just when the run
completes, and that of a failure just when the run stops for one. -/
theorem respond_tells_run [Codecs] (hargs : Invocation.ofArguments args = .ok i)
    (hready : (Log.configure (if i.verbose then some "DEBUG" else none) none none).exec s w =
      (.ok (), s₁, w₁))
    (hbegun : (w₁.answer (.print (statusLine i.variant (rootOf w i)))).2 = u)
    (hstop : ∀ {e t z}, (run (rootOf w i) i.variant none i.dryRun).exec s₁ u = (.error e, t, z) →
      ∃ f, e = .failure f) :
    ∃ status lines before after t z,
      (respond args).exec s w = (.ok (.finished status), t, z) ∧
      (respond args).calls s w =
        before ++ .print (statusLine i.variant (rootOf w i)) :: after ∧
      (∀ c ∈ before, c.Prepares) ∧
      (∃ st t, Config.settings.exec s w = (.ok st, t, w) ∧
        w.Readied (Log.fileOf st.general.logFile) w₁) ∧
      after.filterMap Call.printed? = lines ∧
      z.output = lines.reverse ++ statusLine i.variant (rootOf w i) :: w.output ∧
      Closing (rootOf w i) i.variant i.dryRun s₁ u status lines z ∧
      (status.number = 0 ↔ Run.Completes (rootOf w i) i.variant i.dryRun s₁ u) ∧
      (status.number = 2 ↔ ∃ f t z,
        (run (rootOf w i) i.variant none i.dryRun).exec s₁ u = (.error (.failure f), t, z)) := by
  obtain ⟨hexec, hcalls⟩ := respond_of_configured hargs hready
  rw [hbegun] at hexec hcalls
  have hbefore : ∀ c ∈ (Log.configure (if i.verbose then some "DEBUG" else none) none none).calls s w ++
      [.directory], c.Prepares := by
    intro c hc
    rcases List.mem_append.mp hc with hc | hc
    · exact Log.asks_configure _ none none s w c hc
    · rw [List.mem_singleton.mp hc]
      exact ⟨rfl, rfl⟩
  have houtput : ((respond args).exec s w).2.2.output =
      (((conclude (rootOf w i) i.variant i.dryRun).calls s₁ u).filterMap Call.printed?).reverse ++
        statusLine i.variant (rootOf w i) :: w.output := by
    have hquiet := List.filterMap_eq_nil_iff.mpr fun c hc => (hbefore c hc).quiet
    rw [output_exec, hcalls, List.filterMap_append, hquiet, List.nil_append, List.filterMap_cons,
      Call.printed?, List.reverse_cons, List.append_assoc]
    rfl
  rcases hrun : (run (rootOf w i) i.variant none i.dryRun).exec s₁ u with ⟨e | report, t, z⟩
  · obtain ⟨f, rfl⟩ := hstop hrun
    obtain ⟨⟨t', z', hconclude, hnotice⟩, hlines⟩ := conclude_of_failure hrun
    rw [hexec, hconclude, hlines] at houtput
    refine ⟨.filesystem, [], _, _, t', z', hexec.trans hconclude, hcalls, hbefore,
      Log.exec_configure hready, hlines, houtput, .aborted hrun hnotice, iff_of_false nofun ?_,
      iff_of_true rfl ⟨f, t, z, rfl⟩⟩
    rw [Run.completes_iff, hrun]
    rintro ⟨_, _, _, h⟩
    cases h
  · obtain ⟨⟨t', z', hconclude⟩, hlines⟩ := conclude_of_report hrun
    rw [hexec, hconclude, hlines] at houtput
    refine ⟨.success, _, _, _, t', z', hexec.trans hconclude, hcalls, hbefore,
      Log.exec_configure hready, hlines, houtput, ?_,
      iff_of_true rfl (Run.completes_iff.mpr ⟨report, t, z, hrun⟩), iff_of_false nofun ?_⟩
    · obtain ⟨st, paths, s₂, w₂, results, s₃, w₃, hsearch, hall, rfl, -⟩ := Run.exists_of_exec_run hrun
      refine .completed hsearch hall (fun hdry => ?_) fun hwet => by rw [hwet]; rfl
      rw [hdry] at hall
      rw [if_pos hdry]
      exact forall₂_told hall
    · rintro ⟨_, _, _, h⟩
      cases h

open Run (loaded plain attached top searched twoFiles)

/-- A session in which settings are loaded and logging is set up. -/
def configured : Session :=
  ⟨some .standard, ⟨some .console, .standard, []⟩, []⟩

/-- A world in which a run at the root is announced. -/
def announced : World :=
  { attached twoFiles with output := ["Problemifying /\n"] }

theorem respond_tells_dry_run :
    ∃ t z, (respond ["-p", "--dry-run", "."]).exec (loaded .standard) (plain twoFiles) =
        (.ok (.finished .success), t, z) ∧
      z.output = ["rewrite /b.js\n", "delete /a.js\n", "Problemifying /\n"] := by
  have hargs : Invocation.ofArguments ["-p", "--dry-run", "."] = .ok ⟨.problem, ".", true, false⟩ := by
    decide
  have hready : (Log.configure none none none).exec (loaded .standard) (plain twoFiles) =
      (.ok (), configured, attached twoFiles) := rfl
  have hroot : rootOf (plain twoFiles) ⟨.problem, ".", true, false⟩ = ⟨.root, []⟩ := by decide
  have hline : statusLine .problem ⟨.root, []⟩ = "Problemifying /\n" := by decide
  have hsearch : (Run.candidates ⟨.root, []⟩ .problem none).exec configured announced =
      (.ok (.standard, [top "a.js", top "b.js"]), searched .problem, announced) := by cbv
  have hapart : ∀ p ∈ [top "a.js", top "b.js"], announced.Apart p :=
    fun p _ => World.apart_of_none rfl p
  -- a file's text does not depend on what was printed
  have hforetold : List.Forall₂ (Processing.Foretold announced .problem "utf-8")
      [top "a.js", top "b.js"] [⟨top "a.js", .deleted, true⟩, ⟨top "b.js", .rewritten, false⟩] :=
    Run.foretold_twoFiles
  obtain ⟨_, _, hall, -⟩ := Processing.exec_processAll_dry hapart hforetold (searched .problem)
  obtain ⟨_, _, hrun, -⟩ := Run.exec_run_of_found hsearch hall
  obtain ⟨status, lines, -, -, t, z, hexec, -, -, -, -, houtput, hclosing, -, -⟩ :=
    respond_tells_run (u := announced) hargs hready (by rw [hroot, hline]; rfl)
      fun h => by rw [hroot, hrun] at h; cases h
  rw [hroot] at hclosing houtput
  cases hclosing with
  | completed search processed dry wet =>
    rw [hsearch] at search
    cases search
    rw [eq_of_told hapart (dry rfl) hforetold, hline] at houtput
    exact ⟨t, z, hexec, houtput.trans (by decide)⟩
  | aborted stopped _ =>
    rw [hrun] at stopped
    cases stopped

end CommandLine

end Handout
