import Handout.Proofs.Records
import Handout.Proofs.Runs

/-!
# The events of a run

A file that is processed is told of once, and one that could not be processed is not told of
(`tells_processFile`, `records_processFile_error`). So files that are processed one after the other are
told of in their order (`tells_processAll`), and what a whole run tells depends on how it went
(`Run.Told`, `run_tells_events`). The last record of a run that came to its end has the numbers of its
files, and they add up (`Run.AddsUp`).

The context of its events is what was bound before the run, with the variant and the root put over it.
A run takes both away again on every way out (`unbound_of_run`).

**What it does not establish.** What the two names were bound to before a run is not brought back. Of
runs in which events are dropped nothing is said.
-/

namespace Handout

open Act

/-! ## What tells nothing -/

theorem Run.silent_known (settings : Option Settings) : Asks Call.Silent (known settings) := by
  cases settings with
  | some st => exact asks_pure st
  | none => exact Config.silent_settings

namespace Processing

theorem silent_readText [Codecs] (p : Path) (encoding : String) :
    Asks Call.Silent (readText p encoding) :=
  (calling_readText p encoding).prepares.mono fun _ hc => hc.silent

theorem silent_deleteFile (p : Path) : Asks Call.Silent (deleteFile p) :=
  (calling_deleteFile p).asks.mono fun _ hc => by rw [hc]; rfl

theorem silent_writeText (p : Path) (codec : Codec) (text : List Char) :
    Asks Call.Silent (writeText p codec text) :=
  (calling_writeText p codec text).asks.mono fun _ ⟨_, hc⟩ => by rw [hc]; rfl

variable {s t : Session} {w u : World} {c : Fields} {p : Path} {v : Variant} {encoding : String}
  {dryRun : Bool}

/-- The event of a file that was processed. -/
def processed (dryRun : Bool) (r : FileResult) : Event :=
  match r.action with
  | .deleted => ⟨⟨[("path", .text r.path.text), ("dry_run", .bool dryRun)], by simp⟩,
      logger, .debug, "file_deleted"⟩
  | .rewritten => ⟨⟨[("path", .text r.path.text), ("changed", .bool r.changed),
      ("dry_run", .bool dryRun)], by simp⟩, logger, .debug, "file_rewritten"⟩

theorem recorded_eq (dryRun : Bool) (r : FileResult) :
    recorded dryRun r = (processed dryRun r).log >>= fun _ => pure r := by
  rw [recorded, processed]
  cases r.action <;> rfl

/-- **Processing a file records its result**, and nothing before that. -/
theorem records_processFile [Codecs] (w : World) (p : Path) (v : Variant) (encoding : String)
    (dryRun : Bool) (s : Session) :
    (processFile p v (some encoding) dryRun).records s w =
      match attempt w p v encoding dryRun with
      | (.error _, _) => []
      | (.ok r, u) => (recorded dryRun r).records s u := by
  have hread : (readText p encoding).exec s w = (textOf w p encoding, s, w) := exec_readText s
  rw [attempt]
  cases ht : textOf w p encoding with
  | error e =>
    exact (records_bind_of_silent_error (silent_readText p encoding) (ht ▸ hread)).trans rfl
  | ok a =>
    refine (records_bind_of_silent (silent_readText p encoding) (ht ▸ hread)).trans ?_
    obtain ⟨codec, text⟩ := a
    simp only
    cases hplan : Plan.of v text with
    | delete =>
      cases dryRun with
      | true => rfl
      | false =>
        have hdelete := exec_deleteFile (w := w) (p := p) codec s
        simp only [enactUnless, Bool.false_eq_true, if_false]
        rcases henact : enact w p codec .delete with ⟨e | _, u⟩ <;> rw [henact] at hdelete
        · exact records_bind_of_silent_error (silent_deleteFile p) hdelete
        · exact records_bind_of_silent (silent_deleteFile p) hdelete
    | rewrite new =>
      cases dryRun with
      | true => rfl
      | false =>
        have hwrite := exec_writeText (w := w) (p := p) codec new s
        simp only [enactUnless, Bool.false_eq_true, if_false]
        rcases henact : enact w p codec (.rewrite new) with ⟨e | _, u⟩ <;> rw [henact] at hwrite
        · exact records_bind_of_silent_error (silent_writeText p codec new) hwrite
        · exact records_bind_of_silent (silent_writeText p codec new) hwrite

theorem tells_recorded (h : s.TellsAll c) (dryRun : Bool) (r : FileResult) (w : World) :
    ∃ t u told, (recorded dryRun r).exec s w = (.ok r, t, u) ∧ t.TellsAll c ∧
      (recorded dryRun r).records s w = [told] ∧ (processed dryRun r).ToldBy (Fields.get? c) told := by
  obtain ⟨t, u, told, hexec, ht, hrecords, htold⟩ := Log.tells_event h (processed dryRun r) w
  rw [recorded_eq]
  refine ⟨t, u, told, exec_bind_eq_ok.mpr ⟨_, _, _, hexec, rfl⟩, ht, ?_, htold⟩
  rw [records_bind_of_ok hexec, hrecords, records_pure, List.append_nil]

/-- **A file that is processed is told of.** -/
theorem tells_processFile [Codecs] {r : FileResult} (h : s.TellsAll c)
    (hexec : (processFile p v (some encoding) dryRun).exec s w = (.ok r, t, u)) :
    r.path = p ∧ t.TellsAll c ∧ ∃ told,
      (processFile p v (some encoding) dryRun).records s w = [told] ∧
      (processed dryRun r).ToldBy (Fields.get? c) told := by
  rw [exec_processFile] at hexec
  rw [records_processFile]
  rcases ha : attempt w p v encoding dryRun with ⟨e | r', u'⟩
  · rw [ha] at hexec
    cases hexec
  · obtain ⟨t', u'', told, hrecorded, ht, hrecords, htold⟩ := tells_recorded h dryRun r' u'
    rw [ha] at hexec
    cases hrecorded.symm.trans hexec
    obtain ⟨_, _, _, _, rfl⟩ := attempt_eq_ok.mp ha
    exact ⟨FileResult.ofPlan_path _ _ _, ht, told, hrecords, htold⟩

/-- A file that could not be processed is not told of. -/
theorem records_processFile_error [Codecs] {e : Stop}
    (hexec : (processFile p v (some encoding) dryRun).exec s w = (.error e, t, u)) :
    (processFile p v (some encoding) dryRun).records s w = [] := by
  obtain ⟨ha, -, -⟩ := (comesTo_processFile w p v encoding dryRun s).eq_error hexec
  rw [records_processFile, ha]

end Processing

namespace Run

open Processing

variable {root : Path} {v : Variant} {settings : Option Settings} {dryRun : Bool} {encoding : String}
  {s s₁ t : Session} {w w₁ u : World} {c : Fields} {st : Settings} {paths : List Path}
  {results : List FileResult}

/-- **Files that are processed one after the other are told of in their order.** -/
theorem tells_processAll [Codecs] (h : s.TellsAll c)
    (hall : (processAll v encoding dryRun paths).exec s w = (.ok results, t, u)) :
    results.map (·.path) = paths ∧ t.TellsAll c ∧
      List.Forall₂ (Event.ToldBy (Fields.get? c)) (results.map (processed dryRun))
        ((processAll v encoding dryRun paths).records s w) := by
  induction paths generalizing s w results with
  | nil =>
    cases hall
    exact ⟨rfl, h, .nil⟩
  | cons p ps ih =>
    obtain ⟨r, s₁, w₁, hp, hrest⟩ := exec_bind_eq_ok.mp hall
    obtain ⟨rs, s₂, w₂, hps, hpure⟩ := exec_bind_eq_ok.mp hrest
    cases hpure
    obtain ⟨hpath, h₁, told, hrecords, htold⟩ := tells_processFile h hp
    obtain ⟨hpaths, h₂, hrest⟩ := ih h₁ hps
    refine ⟨by rw [List.map_cons, hpath, hpaths], h₂, ?_⟩
    rw [processAll, records_bind_of_ok hp, hrecords, records_bind_of_ok hps, records_pure,
      List.append_nil]
    exact .cons htold hrest

/-- Files are processed after others where those came to their results. -/
theorem processAll_append [Codecs] (v : Variant) (encoding : String) (dryRun : Bool) (ps qs : List Path) :
    processAll v encoding dryRun (ps ++ qs) =
      processAll v encoding dryRun ps >>= fun rs =>
        processAll v encoding dryRun qs >>= fun rs' => pure (rs ++ rs') := by
  induction ps with
  | nil => simp [processAll]
  | cons p ps ih => simp [processAll, ih]

/-- Where files stop at one of them, only those before it are told of. -/
theorem records_processAll_error [Codecs] {p : Path} {e : Stop} {z : World}
    (hbefore : (processAll v encoding dryRun paths).exec s w = (.ok results, t, u))
    (hfailing : (processFile p v (some encoding) dryRun).exec t u = (.error e, t, z))
    (rest : List Path) :
    (processAll v encoding dryRun (paths ++ p :: rest)).records s w =
      (processAll v encoding dryRun paths).records s w := by
  have hstop : (processAll v encoding dryRun (p :: rest)).exec t u = (.error e, t, z) :=
    exec_bind_eq_error.mpr (.inl hfailing)
  rw [processAll_append, records_bind_of_ok hbefore, records_bind_of_error hstop, processAll,
    records_bind_of_error hfailing, records_processFile_error hfailing, List.append_nil]

/-! ## Discovery -/

/-- The event of a discovery. -/
def found (root : Path) (count : Nat) : Event :=
  ⟨⟨[("root", .text root.text), ("count", .int count)], by simp⟩,
    Discovery.logger, .debug, "discovery_completed"⟩

/-- The event of a run that has come to its end: how many files it had, how many of them were deleted
and how many rewritten, and how many of these have another text now. -/
def completed (dryRun : Bool) (results : List FileResult) : Event :=
  ⟨⟨[("files", .int results.length),
      ("deleted", .int (results.countP (·.action = .deleted))),
      ("rewritten", .int (results.countP (·.action = .rewritten))),
      ("changed", .int (results.countP fun r => r.action = .rewritten ∧ r.changed)),
      ("dry_run", .bool dryRun)], by simp⟩, logger, .info, "run_completed"⟩

/-- The numbers of a report are those of its event. -/
theorem summary_eq (report : RunReport) :
    report.summary = (completed report.dryRun report.results).fields := by
  simp only [RunReport.summary, RunReport.deleted, RunReport.rewritten, RunReport.changed, completed,
    List.length_map, List.countP_eq_length_filter]

/-- **A discovery that comes to a result is told of**, with the number of paths found. -/
theorem tells_discover {extensions ignored : Option (List String)} (h : s.TellsAll c)
    (hexec : (discover root extensions ignored).exec s w = (.ok paths, t, u)) :
    t.TellsAll c ∧ ∃ told, (discover root extensions ignored).records s w = [told] ∧
      (found root paths.length).ToldBy (Fields.get? c) told := by
  obtain ⟨st, s₁, w₁, hload, hexec⟩ := exec_bind_eq_ok.mp hexec
  obtain ⟨ps, s₂, w₂, hwalk, hexec⟩ := exec_bind_eq_ok.mp hexec
  obtain ⟨_, s₃, w₃, hevent, hpure⟩ := exec_bind_eq_ok.mp hexec
  cases hpure
  have hcalling := Discovery.calling_walk ⟨extensions.getD st.discovery.extensions,
    ignored.getD st.discovery.ignoreNames⟩ World.mostPathBytes root
  have hsteady := hcalling.steady s₁ w₁
  rw [hwalk] at hsteady
  obtain rfl : s₂ = s₁ := hsteady
  have h₁ := h.of_eq (Config.steady_settings hload)
  obtain ⟨t', u', told, hlog, ht, hrecords, htold⟩ :=
    Log.tells_event h₁ (found root paths.length) w₂
  cases hevent.symm.trans hlog
  refine ⟨ht, told, ?_, htold⟩
  rw [discover, records_bind_of_silent Config.silent_settings hload,
    records_bind_of_silent hcalling.silent hwalk, records_bind_of_ok hevent, records_pure,
    List.append_nil]
  exact hrecords

/-- A discovery that stops is not told of. -/
theorem records_discover_error {extensions ignored : Option (List String)} {e : Stop}
    (hexec : (discover root extensions ignored).exec s w = (.error e, t, u)) :
    (discover root extensions ignored).records s w = [] := by
  rw [discover] at hexec ⊢
  rcases exec_bind_eq_error.mp hexec with hload | ⟨st, s₁, w₁, hload, hexec⟩
  · exact records_bind_of_silent_error Config.silent_settings hload
  · rw [records_bind_of_silent Config.silent_settings hload]
    rcases exec_bind_eq_error.mp hexec with hwalk | ⟨ps, s₂, w₂, hwalk, hexec⟩
    · exact records_bind_of_silent_error (Discovery.calling_walk _ _ _).silent hwalk
    · rcases exec_bind_eq_error.mp hexec with hevent | ⟨_, _, _, _, hpure⟩
      · exact ((Log.confined_event _ _ _ _).stopped (E := fun _ => False) hevent).elim
      · cases hpure

/-! ## Runs -/

theorem context_of_known {r : Except Stop Settings} (h : (known settings).exec s w = (r, t, u)) :
    t.context = s.context ∧ t.logging = s.logging := by
  cases settings with
  | some st =>
    cases h
    exact ⟨rfl, rfl⟩
  | none => exact Config.steady_settings h

/-- **Debug events are recorded** by a run from here: once logging is set up, none is dropped. -/
def RecordsDebug (s : Session) (w : World) : Prop :=
  ∀ {t u}, (Log.ensure none).exec s w = (.ok (), t, u) → t.logging.threshold ≤ Severity.debug.number

/-- **The events of a run**, by how it went. -/
inductive Told [Codecs] (root : Path) (v : Variant) (settings : Option Settings) (dryRun : Bool)
    (s : Session) (w : World) : Except Stop RunReport → List Event → Prop
  /-- No candidates were found. -/
  | searching {e : Stop} {t : Session} {u : World}
      (search : (candidates root v settings).exec s w = (.error e, t, u)) :
      Told root v settings dryRun s w (.error e) []
  /-- The candidates before one were processed, and that one could not be. -/
  | processing {st : Settings} {paths : List Path} {s₁ t : Session} {w₁ u z : World}
      {results : List FileResult} {e : Stop} (k : Nat) (hk : k < paths.length)
      (search : (candidates root v settings).exec s w = (.ok (st, paths), s₁, w₁))
      (before : (processAll v st.processing.encoding dryRun (paths.take k)).exec s₁ w₁ =
        (.ok results, t, u))
      (files : results.map (·.path) = paths.take k)
      (failing : (processFile paths[k] v (some st.processing.encoding) dryRun).exec t u =
        (.error e, t, z)) :
      Told root v settings dryRun s w (.error e)
        (found root paths.length :: results.map (processed dryRun))
  /-- All candidates were processed. -/
  | returned {st : Settings} {paths : List Path} {s₁ t : Session} {w₁ u : World}
      {results : List FileResult}
      (search : (candidates root v settings).exec s w = (.ok (st, paths), s₁, w₁))
      (all : (processAll v st.processing.encoding dryRun paths).exec s₁ w₁ = (.ok results, t, u))
      (files : results.map (·.path) = paths) :
      Told root v settings dryRun s w (.ok ⟨root, v, dryRun, results⟩)
        (found root paths.length :: results.map (processed dryRun) ++ [completed dryRun results])

/-- A run whose first phase stops is not told of. -/
theorem records_run_of_failed [Codecs] {e : Stop}
    (h : (candidates root v settings).exec s w = (.error e, t, u)) (dryRun : Bool) :
    (run root v settings dryRun).records s w = [] := by
  rw [run_eq]
  rcases exec_bind_eq_error.mp h with hensure | ⟨_, s₁, w₁, hensure, h⟩
  · exact records_bind_of_silent_error (Log.silent_ensure none) hensure
  · rw [records_bind_of_silent (Log.silent_ensure none) hensure]
    rcases exec_bind_eq_error.mp h with hknown | ⟨st, s₂, w₂, hknown, h⟩
    · exact records_bind_of_silent_error (silent_known settings) hknown
    · rw [records_bind_of_silent (silent_known settings) hknown, Log.records_within]
      rcases exec_bind_eq_error.mp h with hbind | ⟨_, s₃, w₃, hbind, h⟩
      · cases hbind
      · rw [Log.exec_bindFields] at hbind
        cases hbind
        rcases exec_bind_eq_error.mp h with hdiscover | ⟨_, _, _, _, hpure⟩
        · rw [body, records_bind_of_error hdiscover, records_discover_error hdiscover]
        · cases hpure

/-- What a run does once its files are found. -/
def finish [Codecs] (root : Path) (v : Variant) (st : Settings) (dryRun : Bool)
    (paths : List Path) : Act RunReport := do
  let results ← processAll v st.processing.encoding dryRun paths
  (completed dryRun results).log
  return ⟨root, v, dryRun, results⟩

/-- What is bound in a run: its own context, over what was bound before it. -/
def bound (root : Path) (v : Variant) (s : Session) (name : String) : Option Data :=
  (Fields.get? (context root v) name).or (Fields.get? s.context name)

theorem get?_context (root : Path) (v : Variant) (s : Session) :
    Fields.get? (Fields.merge s.context (context root v)) = bound root v s :=
  funext fun name => (Keywords.mk (context root v) (by simp [context])).get?_merge s.context name

/-- **A run whose first phase comes to a result** tells of it, and then of the rest. -/
theorem tells_of_candidates [Codecs] (hdebug : RecordsDebug s w)
    (h : (candidates root v settings).exec s w = (.ok (st, paths), s₁, w₁)) (dryRun : Bool) :
    s₁.TellsAll (Fields.merge s.context (context root v)) ∧ ∃ told,
      (run root v settings dryRun).records s w =
        told :: (finish root v st dryRun paths).records s₁ w₁ ∧
      (found root paths.length).ToldBy (bound root v s) told := by
  obtain ⟨s₂, s₃, w₂, hensure, hknown, hdiscover⟩ := exists_of_exec_candidates h
  obtain ⟨hcontext, hstyle⟩ := Log.context_of_ensure hensure
  obtain ⟨hcontext', hlogging⟩ := context_of_known hknown
  have hbound : Session.TellsAll (Fields.merge s.context (context root v))
      { s₃ with context := Fields.merge s₃.context (context root v) } :=
    ⟨by rw [hcontext', hcontext], hlogging ▸ hstyle rfl, hlogging ▸ hdebug hensure⟩
  obtain ⟨ht, told, hrecords, htold⟩ := tells_discover hbound hdiscover
  refine ⟨ht, told, ?_, get?_context root v s ▸ htold⟩
  rw [run_eq, records_bind_of_silent (Log.silent_ensure none) hensure,
    records_bind_of_silent (silent_known settings) hknown, Log.records_within, body,
    records_bind_of_ok hdiscover, hrecords]
  simp only [summary_eq]
  rfl

/-- **What a run tells**, by how it went. -/
theorem tells_run [Codecs] {r : Except Stop RunReport} (hdebug : RecordsDebug s w)
    (hrun : (run root v settings dryRun).exec s w = (r, t, u)) :
    ∃ events, Told root v settings dryRun s w r events ∧
      List.Forall₂ (Event.ToldBy (bound root v s)) events
        ((run root v settings dryRun).records s w) := by
  rcases hsearch : (candidates root v settings).exec s w with ⟨e | ⟨st, paths⟩, s₁, w₁⟩
  · obtain ⟨t', hstop⟩ := exec_run_of_failed hsearch dryRun
    cases hstop.symm.trans hrun
    rw [records_run_of_failed hsearch]
    exact ⟨[], .searching hsearch, .nil⟩
  · obtain ⟨h₁, told, hrecords, htold⟩ := tells_of_candidates hdebug hsearch dryRun
    rw [hrecords]
    rcases hall : (processAll v st.processing.encoding dryRun paths).exec s₁ w₁ with
      ⟨e | results, s₂, w₂⟩
    · obtain ⟨t', hstop⟩ := exec_run_error_of_found hsearch hall
      cases hstop.symm.trans hrun
      obtain ⟨k, hk, results, u₁, hbefore, hfailing, -⟩ := exec_processAll_error hall
      obtain ⟨hfiles, -, hfilesTold⟩ := tells_processAll h₁ hbefore
      rw [get?_context] at hfilesTold
      refine ⟨_, .processing k hk hsearch hbefore hfiles hfailing, .cons htold ?_⟩
      rw [finish, records_bind_of_error hall]
      have hsplit := records_processAll_error hbefore hfailing (paths.drop (k + 1))
      rw [List.getElem_cons_drop, List.take_append_drop] at hsplit
      rwa [hsplit]
    · obtain ⟨t', u', hend, -⟩ := exec_run_of_found hsearch hall
      cases hend.symm.trans hrun
      obtain ⟨hfiles, h₂, hfilesTold⟩ := tells_processAll h₁ hall
      refine ⟨_, .returned hsearch hall hfiles, .cons htold ?_⟩
      obtain ⟨t₃, u₃, told', hlog, -, hrecords', htold'⟩ :=
        Log.tells_event h₂ (completed dryRun results) w₂
      rw [get?_context] at hfilesTold htold'
      rw [finish, records_bind_of_ok hall, records_bind_of_ok hlog, hrecords', records_pure,
        List.append_nil]
      exact List.rel_append hfilesTold (.cons htold' .nil)

/-- No value is bound under the names of a run's context. -/
def Unbound (s : Session) : Prop :=
  ∀ name ∈ ["mode", "root"], Fields.get? s.context name = none

/-- **A run leaves no value bound**, unless it stopped before it had its settings. -/
theorem unbound_of_run [Codecs] {r : Except Stop RunReport}
    (hrun : (run root v settings dryRun).exec s w = (r, t, u)) :
    Unbound t ∨ t.context = s.context ∧ ∃ e, r = .error e ∧ e.Foreign := by
  rw [run_eq, exec_bind] at hrun
  rcases hensure : (Log.ensure none).exec s w with ⟨e | _, s₁, w₁⟩ <;> rw [hensure] at hrun <;>
    obtain ⟨hcontext, -⟩ := Log.context_of_ensure hensure
  · cases hrun
    exact .inr ⟨hcontext, e, rfl, (Log.confined_ensure none).stopped hensure⟩
  · simp only [exec_bind] at hrun
    rcases hknown : (known settings).exec s₁ w₁ with ⟨e | st, s₂, w₂⟩ <;> rw [hknown] at hrun <;>
      obtain ⟨hcontext', -⟩ := context_of_known hknown
    · cases hrun
      exact .inr ⟨hcontext'.trans hcontext, e, rfl, (confined_known settings).stopped hknown⟩
    · simp only [Log.exec_within] at hrun
      cases hrun
      exact .inl fun name hname => (Fields.get?_erase _ _ _).trans (if_pos hname)

/-! ## The numbers of a run -/

/-- Every file was deleted or rewritten. -/
theorem countP_deleted_add_countP_rewritten (results : List FileResult) :
    results.countP (·.action = .deleted) + results.countP (·.action = .rewritten) =
      results.length := by
  induction results with
  | nil => rfl
  | cons r rs ih => cases h : r.action <;> simp [h] <;> omega

theorem countP_changed_le (results : List FileResult) :
    results.countP (fun r => r.action = .rewritten ∧ r.changed) ≤
      results.countP (·.action = .rewritten) :=
  List.countP_mono_left fun r _ => by simp +contextual

theorem length_deleted_add_rewritten (report : RunReport) :
    report.deleted.length + report.rewritten.length = report.results.length := by
  rw [← countP_deleted_add_countP_rewritten]
  simp only [RunReport.deleted, RunReport.rewritten, List.length_map, List.countP_eq_length_filter]

theorem length_changed_le (report : RunReport) :
    report.changed.length ≤ report.rewritten.length := by
  have hle := countP_changed_le report.results
  simpa only [RunReport.changed, RunReport.rewritten, List.length_map, List.countP_eq_length_filter]
    using hle

/-- **The numbers in the fields of an event add up**: each of so many files was deleted or rewritten,
and no more were changed than were rewritten. -/
def AddsUp (files : Nat) (f : Fields) : Prop :=
  ∃ deleted rewritten changed : Nat,
    Fields.get? f "files" = some (.int files) ∧ Fields.get? f "deleted" = some (.int deleted) ∧
    Fields.get? f "rewritten" = some (.int rewritten) ∧
    Fields.get? f "changed" = some (.int changed) ∧
    files = deleted + rewritten ∧ changed ≤ rewritten

/-- The record of a run that came to its end has numbers that add up. -/
theorem addsUp_of_toldBy {bound : String → Option Data} {told : Record}
    (h : (completed dryRun results).ToldBy bound told) : AddsUp results.length told.fields := by
  refine ⟨_, _, _, h.fields _, h.fields _, h.fields _, h.fields _, ?_, countP_changed_le results⟩
  exact (countP_deleted_add_countP_rewritten results).symm

/-- No event of a run has a value of its own under the names of the run's context, but for the root
that a discovery names too. -/
theorem Told.agrees [Codecs] {r : Except Stop RunReport} {events : List Event}
    (h : Told root v settings dryRun s w r events) : ∀ e ∈ events, ∀ x ∈ context root v,
      (Fields.get? e.fields x.1).getD x.2 = x.2 := by
  have hfound : ∀ n, ∀ x ∈ context root v, (Fields.get? (found root n).fields x.1).getD x.2 = x.2 := by
    simp [context, found, Fields.get?, List.lookup]
  have hfiles : ∀ (results : List FileResult), ∀ e ∈ results.map (processed dryRun),
      ∀ x ∈ context root v, (Fields.get? e.fields x.1).getD x.2 = x.2 := by
    intro results e he
    obtain ⟨r, -, rfl⟩ := List.mem_map.mp he
    rw [processed]
    split <;> simp [context, Fields.get?, List.lookup]
  have hcompleted : ∀ results : List FileResult, ∀ x ∈ context root v,
      (Fields.get? (completed dryRun results).fields x.1).getD x.2 = x.2 := by
    simp [context, completed, Fields.get?, List.lookup]
  cases h with
  | searching _ => exact fun e he => (List.not_mem_nil he).elim
  | processing _ _ _ _ _ _ => exact List.forall_mem_cons.mpr ⟨hfound _, hfiles _⟩
  | returned _ _ _ =>
    refine List.forall_mem_append.mpr ⟨List.forall_mem_cons.mpr ⟨hfound _, hfiles _⟩, ?_⟩
    exact List.forall_mem_singleton.mpr (hcompleted _)

/-- **What a run tells**, where debug events are recorded. Its records tell of the events that belong to
how it went: the discovery with the number of files found, each file in turn with what was done to it,
and the numbers of a run that came to its end; the discovery and the files before the one at which it
stopped; nothing of a run that found no files. The numbers in the last record of a run that came to its
end add up to that of the files found, and so do those of its report. Every record carries the variant
and the root. Neither is bound after a run that returned or stopped for a failure, nor after any run
where neither was bound before. -/
theorem run_tells_events [Codecs] {r : Except Stop RunReport} (hdebug : RecordsDebug s w)
    (hrun : (run root v settings dryRun).exec s w = (r, t, u)) :
    (∃ events, Told root v settings dryRun s w r events ∧
      List.Forall₂ (Event.ToldBy (bound root v s)) events
        ((run root v settings dryRun).records s w)) ∧
    (∀ report, r = .ok report →
      (∃ st paths s₁ w₁ before last,
        (candidates root v settings).exec s w = (.ok (st, paths), s₁, w₁) ∧
        (run root v settings dryRun).records s w = before ++ [last] ∧
        last.name = "run_completed" ∧ AddsUp paths.length last.fields) ∧
      report.deleted.length + report.rewritten.length = report.results.length ∧
      report.changed.length ≤ report.rewritten.length) ∧
    (∀ told ∈ (run root v settings dryRun).records s w,
      Fields.get? told.fields "mode" = some (.text v.word) ∧
      Fields.get? told.fields "root" = some (.text root.text)) ∧
    ((∀ e, r = .error e → ∃ f, e = .failure f) → Unbound t) ∧
    (Unbound s → Unbound t) := by
  obtain ⟨events, htold, hrecords⟩ := tells_run hdebug hrun
  refine ⟨⟨events, htold, hrecords⟩, ?_, fun told hmem => ?_, fun hr => ?_, fun hs => ?_⟩
  · rintro report rfl
    refine ⟨?_, length_deleted_add_rewritten report, length_changed_le report⟩
    cases htold with
    | @returned st paths s₁ _ w₁ _ results search all files =>
      obtain ⟨before, last, hlast, htold⟩ := Event.exists_last_of_toldBy hrecords
      have hlength : results.length = paths.length := by rw [← files, List.length_map]
      exact ⟨st, paths, s₁, w₁, before, last, search, hlast, htold.name,
        hlength ▸ addsUp_of_toldBy htold⟩
  · obtain ⟨e, he, htells⟩ := Event.exists_of_toldBy hrecords told hmem
    have hagrees := htold.agrees e he
    exact ⟨htells.get? rfl (hagrees _ (.head _)), htells.get? rfl (hagrees _ (.tail _ (.head _)))⟩
  · rcases unbound_of_run hrun with ht | ⟨-, e, he, hforeign⟩
    · exact ht
    · obtain ⟨f, hf⟩ := hr e he
      exact absurd hf (hforeign f)
  · rcases unbound_of_run hrun with ht | ⟨hcontext, -⟩
    · exact ht
    · exact fun name hname => hcontext ▸ hs name hname

/-! ## A run of two files -/

theorem candidates_telling :
    (candidates ⟨.root, []⟩ .problem none).exec (.telling (some .standard)) (plain twoFiles) =
      (.ok (.standard, [top "a.js", top "b.js"]),
        ⟨some .standard, ⟨some .console, Severity.number .debug, [(Discovery.logger, .console)]⟩,
          context ⟨.root, []⟩ .problem⟩,
        plain twoFiles) := by
  have hlist : ((plain twoFiles).answer (.list ⟨.root, []⟩)).1 = .ok ["a.js", "b.js"] := by
    decide
  have hflat : ∀ n ∈ ["a.js", "b.js"],
      ((plain twoFiles).answer (.isDirectory (top n))).1 = .ok false := by decide
  have htaken : Discovery.taken (plain twoFiles) (Discovery.wanted .standard none none) ⟨.root, []⟩
      ["a.js", "b.js"] = ["a.js", "b.js"] := by decide
  have hwalk := exec_walk_of_flat hlist (by decide) hflat htaken
  -- all but the walk computes
  refine exec_bind_eq_ok.mpr ⟨(), _, _, rfl, exec_bind_eq_ok.mpr ⟨_, _, _, rfl,
    exec_bind_eq_ok.mpr ⟨(), _, _, rfl, exec_bind_eq_ok.mpr ⟨_, _, _, ?_, rfl⟩⟩⟩⟩
  exact exec_bind_eq_ok.mpr ⟨_, _, _, rfl, exec_bind_eq_ok.mpr ⟨_, _, _, hwalk _,
    exec_bind_eq_ok.mpr ⟨(), _, _, rfl, rfl⟩⟩⟩

/-- The names that events of a run have values under. -/
def fieldNames : List String :=
  ["mode", "root", "count", "path", "files", "deleted", "rewritten", "changed", "dry_run"]

/-- A name, with the values that there are under those names. -/
def shown (name : String) (value? : String → Option Data) : String × Fields :=
  (name, fieldNames.filterMap fun n => (value? n).map fun d => (n, d))

theorem run_tells_events_two_files :
    ∃ t u, (run ⟨.root, []⟩ .problem none true).exec (.telling (some .standard)) (plain twoFiles) =
        (.ok ⟨⟨.root, []⟩, .problem, true,
          [⟨top "a.js", .deleted, true⟩, ⟨top "b.js", .rewritten, false⟩]⟩, t, u) ∧
      ((run ⟨.root, []⟩ .problem none true).records (.telling (some .standard))
          (plain twoFiles)).map (fun told => shown told.name (Fields.get? told.fields)) =
        [("discovery_completed", [("mode", .text "problem"), ("root", .text "/"), ("count", .int 2)]),
          ("file_deleted", [("mode", .text "problem"), ("root", .text "/"), ("path", .text "/a.js"),
            ("dry_run", .bool true)]),
          ("file_rewritten", [("mode", .text "problem"), ("root", .text "/"), ("path", .text "/b.js"),
            ("changed", .bool false), ("dry_run", .bool true)]),
          ("run_completed", [("mode", .text "problem"), ("root", .text "/"), ("files", .int 2),
            ("deleted", .int 1), ("rewritten", .int 1), ("changed", .int 0),
            ("dry_run", .bool true)])] ∧
      Unbound t := by
  have hsame : (attached twoFiles).SameFiles (plain twoFiles) := ⟨rfl, rfl, rfl⟩
  have hforetold : List.Forall₂ (Foretold (plain twoFiles) .problem "utf-8") _ _ :=
    foretold_twoFiles.imp fun p _ ⟨codec, text, ht, hplan⟩ =>
      ⟨codec, text, (textOf_of_sameFiles hsame p).trans ht, hplan⟩
  obtain ⟨t₁, u₁, hall, -⟩ :=
    exec_processAll_dry (fun p _ => World.apart_of_none rfl p) hforetold _
  obtain ⟨t, u, hrun, -⟩ := exec_run_of_found candidates_telling hall
  have hdebug : RecordsDebug (.telling (some .standard)) (plain twoFiles) := by
    intro t u h
    cases h
    exact Nat.le_refl 10
  obtain ⟨⟨events, htold, hrecords⟩, -, -, hunbound, -⟩ := run_tells_events hdebug hrun
  refine ⟨t, u, hrun, ?_, hunbound nofun⟩
  cases htold with
  | returned search all files =>
    cases candidates_telling.symm.trans search
    exact (Event.map_of_toldBy hrecords shown).trans (by cbv)

end Run

end Handout
