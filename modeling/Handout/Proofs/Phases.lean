import Handout.Proofs.Batch

/-!
# The phases of a run

A run looks for its files before it processes any. `Run.candidates` is the first phase on its own:
logging is set up, the settings are known, and the candidate files are found. A run that does not get
through it stops as it does (`exec_run_of_failed`), and one that does comes to what processing the
files that were found comes to (`exec_run_of_found`).

The first phase changes no file. What it leaves behind is a world made ready for logging, and records
(`readied_of_candidates`).
-/

namespace Handout

open Act

variable {root : Path} {v : Variant} {settings : Option Settings} {dryRun : Bool}
  {s t : Session} {w u : World}

namespace Log

theorem exec_bindFields (fields : Fields) (s : Session) (w : World) :
    (bindFields fields).exec s w =
      (.ok (), { s with context := Fields.merge s.context fields }, w) :=
  rfl

/-- An act whose events carry some fields comes to what it comes to without them. -/
theorem exec_within {α : Type} (fields : Fields) (x : Act α) (s : Session) (w : World) :
    (within fields x).exec s w =
      match x.exec { s with context := Fields.merge s.context fields } w with
      | (r, t, u) => (r, { t with context := Fields.erase t.context (fields.map Prod.fst) }, u) := by
  rw [within, exec_bind, exec_bindFields]
  simp only [exec_bind, exec_outcome]
  rcases x.exec { s with context := Fields.merge s.context fields } w with ⟨_ | _, t, u⟩ <;> rfl

end Log

/-! ## Discovery -/

namespace Discovery

theorem calling_visit (sel : Selection) {descend : Path → Act (List Path)}
    (h : ∀ p, Calling Call.Looks (fun _ => True) (descend p)) (p : Path) :
    Calling Call.Looks (fun _ => True) (visit sel descend p) := by
  refine .bind (.call trivial) fun r => ?_
  match r with
  | .error e => exact .throw trivial
  | .ok true => exact h p
  | .ok false =>
    simp only
    split
    · refine .bind (.call trivial) fun r => ?_
      split <;> exact .pure _
    · exact .pure _

theorem calling_visitAll (sel : Selection) {descend : Path → Act (List Path)}
    (h : ∀ p, Calling Call.Looks (fun _ => True) (descend p)) (p : Path) (names : List String) :
    Calling Call.Looks (fun _ => True) (visitAll sel descend p names) := by
  induction names with
  | nil => exact .pure _
  | cons n r ih =>
    rw [visitAll]
    split
    · exact ih
    · exact .bind (calling_visit sel h _) fun found => .bind ih fun rest => .pure _

/-- A walk only looks. -/
theorem calling_walk (sel : Selection) (depth : Nat) (p : Path) :
    Calling Call.Looks (fun _ => True) (walk sel depth p) := by
  induction depth generalizing p with
  | zero => exact .throw trivial
  | succ n ih =>
    refine .bind (.call trivial) fun r => ?_
    match r with
    | .error e => exact .throw trivial
    | .ok names => exact calling_visitAll sel ih p _

end Discovery

/-- **A discovery that stops** has done nothing. -/
theorem exec_discover_error {extensions ignored : Option (List String)} {e : Stop}
    (h : (discover root extensions ignored).exec s w = (.error e, t, u)) : u = w := by
  rcases exec_bind_eq_error.mp h with hload | ⟨st, s₁, w₁, hload, hwalk⟩
  · exact (Config.confined_settings.moved hload).symm
  · obtain rfl : w = w₁ := Config.confined_settings.moved hload
    rcases exec_bind_eq_error.mp hwalk with hwalk | ⟨found, s₂, w₂, hwalk, hevent⟩
    · exact ((Discovery.calling_walk _ _ _).unmoved.moved hwalk).symm
    · obtain ⟨t', u', hdone, _⟩ := Log.exec_event Discovery.logger .debug "discovery_completed"
        [("root", .text root.text), ("count", .int found.length)] s₂ w₂
      rcases exec_bind_eq_error.mp hevent with hevent | ⟨_, _, _, _, hpure⟩
      · rw [hdone] at hevent
        cases hevent
      · cases hpure

/-- **A discovery that comes to a result** knows the settings, and its walk came to its end. -/
theorem exists_of_exec_discover {extensions ignored : Option (List String)} {paths : List Path}
    (h : (discover root extensions ignored).exec s w = (.ok paths, t, u)) :
    ∃ st s₁ s₂, Config.settings.exec s w = (.ok st, s₁, w) ∧
      (Discovery.walk ⟨extensions.getD st.discovery.extensions,
          ignored.getD st.discovery.ignoreNames⟩ World.mostPathBytes root).exec s₁ w =
        (.ok paths, s₂, w) ∧ w.Noted u := by
  obtain ⟨st, s₁, w₁, hload, h⟩ := exec_bind_eq_ok.mp h
  obtain rfl : w = w₁ := Config.confined_settings.moved hload
  obtain ⟨found, s₂, w₂, hwalk, h⟩ := exec_bind_eq_ok.mp h
  obtain rfl : w = w₂ := (Discovery.calling_walk _ _ _).unmoved.moved hwalk
  obtain ⟨_, s₃, w₃, hevent, hpure⟩ := exec_bind_eq_ok.mp h
  cases hpure
  exact ⟨st, s₁, s₂, hload, hwalk, (Log.confined_event (E := fun _ => True) _ _ _ _).moved hevent⟩

/-- A discovery only looks and records. -/
theorem exec_discover_ok {extensions ignored : Option (List String)} {paths : List Path}
    (h : (discover root extensions ignored).exec s w = (.ok paths, t, u)) : w.Noted u := by
  obtain ⟨_, _, _, _, _, hnoted⟩ := exists_of_exec_discover h
  exact hnoted

namespace Run

/-! ## The first phase -/

/-- The settings of a run: those that are given, or else loaded. -/
def known : Option Settings → Act Settings
  | some s => pure s
  | none => Config.settings

/-- **What a run does before it processes a file**: its settings and the candidates that it finds. -/
def candidates (root : Path) (v : Variant) (settings : Option Settings) :
    Act (Settings × List Path) := do
  Log.ensure none
  let settings ← known settings
  Log.bindFields (context root v)
  let paths ← discover root (some settings.discovery.extensions) (some settings.discovery.ignoreNames)
  return (settings, paths)

theorem confined_known (settings : Option Settings) :
    Confined Eq Stop.Foreign (known settings) := by
  cases settings with
  | none => exact Config.confined_settings
  | some st => exact confined_pure lasting_eq _

/-- **The first phase by its parts**, when it came to a result. -/
theorem exists_of_exec_candidates {st : Settings} {paths : List Path}
    (h : (candidates root v settings).exec s w = (.ok (st, paths), t, u)) :
    ∃ s₁ s₂ w₁, (Log.ensure none).exec s w = (.ok (), s₁, w₁) ∧
      (known settings).exec s₁ w₁ = (.ok st, s₂, w₁) ∧
      (discover root (some st.discovery.extensions) (some st.discovery.ignoreNames)).exec
          { s₂ with context := Fields.merge s₂.context (context root v) } w₁ =
        (.ok paths, t, u) := by
  obtain ⟨_, s₁, w₁, hensure, h⟩ := exec_bind_eq_ok.mp h
  obtain ⟨st', s₂, w₂, hknown, h⟩ := exec_bind_eq_ok.mp h
  obtain rfl : w₁ = w₂ := (confined_known settings).moved hknown
  obtain ⟨_, s₃, w₃, hbind, h⟩ := exec_bind_eq_ok.mp h
  rw [Log.exec_bindFields] at hbind
  cases hbind
  obtain ⟨paths', s₄, w₄, hdiscover, hpure⟩ := exec_bind_eq_ok.mp h
  cases hpure
  exact ⟨s₁, s₂, w₁, hensure, hknown, hdiscover⟩

/-- The first phase that came to a result left the world ready for logging, with records. -/
theorem readied_of_candidates {found : Settings × List Path}
    (h : (candidates root v settings).exec s w = (.ok found, t, u)) :
    ∃ w₀, Log.Readies s w w₀ ∧ w₀.Noted u := by
  obtain ⟨_, _, w₁, hensure, _, hdiscover⟩ := exists_of_exec_candidates h
  exact ⟨w₁, Log.exec_ensure hensure, exec_discover_ok hdiscover⟩

theorem fixed_of_candidates {found : Settings × List Path}
    (h : (candidates root v settings).exec s w = (.ok found, t, u)) :
    u.directory = w.directory ∧ u.faults = w.faults := by
  obtain ⟨w₀, hready, hnoted⟩ := readied_of_candidates h
  exact ⟨hnoted.fixed.1.trans hready.fixed.1, hnoted.fixed.2.1.trans hready.fixed.2⟩

theorem sameFiles_of_candidates {found : Settings × List Path}
    (h : (candidates root v settings).exec s w = (.ok found, t, u)) (hlog : u.log = none) :
    w.SameFiles u := by
  obtain ⟨w₀, hready, hnoted⟩ := readied_of_candidates h
  have hlog₀ : w₀.log = none := hnoted.fixed.2.2.symm.trans hlog
  exact (hready.sameFiles hlog₀).trans (hnoted.sameFiles hlog₀)

/-- The first phase that stopped for a failure left the world ready for logging, without records. -/
theorem readied_of_failed {f : Failure}
    (h : (candidates root v settings).exec s w = (.error (.failure f), t, u)) :
    Log.Readies s w u := by
  rcases exec_bind_eq_error.mp h with hensure | ⟨_, s₁, w₁, hensure, h⟩
  · exact absurd rfl ((Log.confined_ensure none).stopped hensure f)
  · rcases exec_bind_eq_error.mp h with hknown | ⟨st, s₂, w₂, hknown, h⟩
    · exact absurd rfl ((confined_known settings).stopped hknown f)
    · obtain rfl : w₁ = w₂ := (confined_known settings).moved hknown
      rcases exec_bind_eq_error.mp h with hbind | ⟨_, s₃, w₃, hbind, h⟩
      · cases hbind
      · rw [Log.exec_bindFields] at hbind
        cases hbind
        rcases exec_bind_eq_error.mp h with hdiscover | ⟨_, _, _, _, hpure⟩
        · obtain rfl := exec_discover_error hdiscover
          exact Log.exec_ensure hensure
        · cases hpure

/-! ## A run by its phases -/

section

variable [Codecs]

/-- A run sets logging up, gets its settings, and then does the rest with fields for its events. -/
theorem run_eq (root : Path) (v : Variant) (settings : Option Settings) (dryRun : Bool) :
    run root v settings dryRun =
      Log.ensure none >>= fun _ => known settings >>= fun settings =>
        Log.within (context root v) (body root v settings dryRun) := by
  cases settings <;> rfl

/-- **A run whose first phase stops** stops as it does. -/
theorem exec_run_of_failed {e : Stop}
    (h : (candidates root v settings).exec s w = (.error e, t, u)) (dryRun : Bool) :
    ∃ t', (run root v settings dryRun).exec s w = (.error e, t', u) := by
  rw [run_eq]
  rcases exec_bind_eq_error.mp h with hensure | ⟨_, s₁, w₁, hensure, h⟩
  · exact ⟨t, exec_bind_eq_error.mpr (.inl hensure)⟩
  · rcases exec_bind_eq_error.mp h with hknown | ⟨st, s₂, w₂, hknown, h⟩
    · exact ⟨t, exec_bind_eq_error.mpr
        (.inr ⟨_, _, _, hensure, exec_bind_eq_error.mpr (.inl hknown)⟩)⟩
    · rcases exec_bind_eq_error.mp h with hbind | ⟨_, s₃, w₃, hbind, h⟩
      · cases hbind
      · rw [Log.exec_bindFields] at hbind
        cases hbind
        rcases exec_bind_eq_error.mp h with hdiscover | ⟨_, _, _, _, hpure⟩
        · have hbody : (body root v st dryRun).exec _ w₂ = (.error e, t, u) :=
            exec_bind_eq_error.mpr (.inl hdiscover)
          have hwithin := Log.exec_within (context root v) (body root v st dryRun) s₂ w₂
          rw [hbody] at hwithin
          exact ⟨_, exec_bind_eq_error.mpr
            (.inr ⟨_, _, _, hensure, exec_bind_eq_error.mpr (.inr ⟨_, _, _, hknown, hwithin⟩)⟩)⟩
        · cases hpure

/-- A run whose first phase comes to a result does the rest of its body. -/
theorem exec_run_of_candidates {st : Settings} {paths : List Path} {s₁ : Session} {w₁ : World}
    (h : (candidates root v settings).exec s w = (.ok (st, paths), s₁, w₁)) (dryRun : Bool) :
    (run root v settings dryRun).exec s w =
      match (do
        let results ← processAll v st.processing.encoding dryRun paths
        let report : RunReport := ⟨root, v, dryRun, results⟩
        Log.event logger .info "run_completed" report.summary
        return report).exec s₁ w₁ with
      | (r, t, u) =>
        (r, { t with context := Fields.erase t.context ((context root v).map Prod.fst) }, u) := by
  obtain ⟨s₂, s₃, w₂, hensure, hknown, hdiscover⟩ := exists_of_exec_candidates h
  rw [run_eq, exec_bind, hensure]
  simp only
  rw [exec_bind, hknown]
  simp only
  rw [Log.exec_within, body, exec_bind, hdiscover]

/-- **A run that found its files** stops where processing them stops. -/
theorem exec_run_error_of_found {st : Settings} {paths : List Path} {s₁ : Session} {w₁ : World}
    {e : Stop} (h : (candidates root v settings).exec s w = (.ok (st, paths), s₁, w₁))
    (hp : (processAll v st.processing.encoding dryRun paths).exec s₁ w₁ = (.error e, t, u)) :
    ∃ t', (run root v settings dryRun).exec s w = (.error e, t', u) := by
  rw [exec_run_of_candidates h, exec_bind, hp]
  exact ⟨_, rfl⟩

/-- **A run that found its files** reports what processing them comes to. -/
theorem exec_run_of_found {st : Settings} {paths : List Path} {s₁ : Session} {w₁ : World}
    {results : List FileResult}
    (h : (candidates root v settings).exec s w = (.ok (st, paths), s₁, w₁))
    (hp : (processAll v st.processing.encoding dryRun paths).exec s₁ w₁ = (.ok results, t, u)) :
    ∃ t' u', (run root v settings dryRun).exec s w = (.ok ⟨root, v, dryRun, results⟩, t', u') ∧
      u.Noted u' := by
  obtain ⟨t', u', hevent, hnoted⟩ := Log.exec_event logger .info "run_completed"
    (RunReport.summary ⟨root, v, dryRun, results⟩) t u
  rw [exec_run_of_candidates h, exec_bind, hp]
  simp only
  rw [exec_bind, hevent]
  exact ⟨_, u', rfl, hnoted⟩

/-- **A run that comes to a report** found its files and processed all of them. -/
theorem exists_of_exec_run {report : RunReport}
    (h : (run root v settings dryRun).exec s w = (.ok report, t, u)) :
    ∃ st paths s₁ w₁ results s₂ w₂,
      (candidates root v settings).exec s w = (.ok (st, paths), s₁, w₁) ∧
      (processAll v st.processing.encoding dryRun paths).exec s₁ w₁ = (.ok results, s₂, w₂) ∧
      report = ⟨root, v, dryRun, results⟩ ∧ w₂.Noted u := by
  rcases hfound : (candidates root v settings).exec s w with ⟨e | ⟨st, paths⟩, s₁, w₁⟩
  · obtain ⟨t', hrun⟩ := exec_run_of_failed hfound dryRun
    rw [hrun] at h
    cases h
  · rcases hall : (processAll v st.processing.encoding dryRun paths).exec s₁ w₁ with
      ⟨e | results, s₂, w₂⟩
    · obtain ⟨t', hrun⟩ := exec_run_error_of_found hfound hall
      rw [hrun] at h
      cases h
    · obtain ⟨t', u', hrun, hnoted⟩ := exec_run_of_found hfound hall
      rw [hrun] at h
      cases h
      exact ⟨st, paths, s₁, w₁, results, s₂, w₂, rfl, hall, rfl, hnoted⟩

end

/-! ## Small worlds

Runs at the root of a store, in a program that has its settings loaded and nothing else done. -/

/-- A session in which settings are loaded. -/
def loaded (settings : Settings) : Session :=
  { Session.start with settings := some settings }

/-- A world with a store and nothing else in it. -/
def plain (store : Store) : World :=
  ⟨store, [], [], [], "", false, none, [], []⟩

/-- Such a world with variables. -/
def plainUnder (env : Environment) (store : Store) : World :=
  { plain store with environment := env }

/-- Such a world, once records are sent to the error output. -/
def attached (store : Store) : World :=
  { plain store with attached := true }

/-- The session of a run at the root that has found its files under the standard settings. -/
def searched (v : Variant) : Session :=
  ⟨some .standard, ⟨some .console, .standard, [(Discovery.logger, .console)]⟩, context ⟨.root, []⟩ v⟩

/-- A file at the root. -/
def top (name : String) : Path :=
  ⟨.root, [name]⟩

end Run

end Handout
