import Handout.Processing

/-!
# A run

Every candidate file below a root is processed for one variant, in the order of discovery. The first
failure stops the run; files that were processed before it stay as they are then. All events of a run
carry its variant and its root.
-/

namespace Handout

/-- What a run did. -/
structure RunReport where
  root : Path
  variant : Variant
  dryRun : Bool
  results : List FileResult
  deriving Repr

namespace RunReport

/-- The files that were deleted. -/
def deleted (r : RunReport) : List Path :=
  (r.results.filter (·.action = .deleted)).map (·.path)

/-- The files that were rewritten. -/
def rewritten (r : RunReport) : List Path :=
  (r.results.filter (·.action = .rewritten)).map (·.path)

/-- The files that were rewritten with another text. -/
def changed (r : RunReport) : List Path :=
  (r.results.filter fun f => f.action = .rewritten ∧ f.changed).map (·.path)

/-- The numbers of a report. -/
def summary (r : RunReport) : Fields :=
  [("files", .int r.results.length), ("deleted", .int r.deleted.length),
    ("rewritten", .int r.rewritten.length), ("changed", .int r.changed.length),
    ("dry_run", .bool r.dryRun)]

end RunReport

namespace Run

/-- The name that this part of the program logs under. -/
def logger : String := "problemify.runner"

/-- Process files one after the other. -/
def processAll [Codecs] (v : Variant) (encoding : String) (dryRun : Bool) :
    List Path → Act (List FileResult)
  | [] => return []
  | p :: ps => do
    let r ← processFile p v (some encoding) dryRun
    return r :: (← processAll v encoding dryRun ps)

/-- The fields that the events of a run carry. -/
def context (root : Path) (v : Variant) : Fields :=
  [("mode", .text v.word), ("root", .text root.text)]

/-- What a run does once its settings are known. -/
def body [Codecs] (root : Path) (v : Variant) (settings : Settings) (dryRun : Bool) :
    Act RunReport := do
  let paths ← discover root (some settings.discovery.extensions) (some settings.discovery.ignoreNames)
  let results ← processAll v settings.processing.encoding dryRun paths
  let report : RunReport := ⟨root, v, dryRun, results⟩
  Log.event logger .info "run_completed" report.summary
  return report

end Run

/-- **A run** under settings that are given, or else loaded. Logging is set up if it is not. -/
def run [Codecs] (root : Path) (v : Variant) (settings : Option Settings) (dryRun : Bool) :
    Act RunReport := do
  Log.ensure none
  let settings ← match settings with
    | some s => pure s
    | none => Config.settings
  Log.within (Run.context root v) (Run.body root v settings dryRun)

end Handout
