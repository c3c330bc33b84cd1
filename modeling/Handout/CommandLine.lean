import Handout.CommandLine.Arguments
import Handout.CommandLine.Help
import Handout.Run

/-!
# The command

`CommandLine.respond` is the command from its arguments to its exit status. A wrong invocation touches
nothing: the help and one line about the fault go to the error output. Otherwise logging is set up, a
status line names the root, and the run is carried out. A dry run then says what would be done to each
file. A failure of the run is logged and reported on the error output; a stop of any other cause is
not the command's to handle.
-/

namespace Handout

/-- How the command ends. -/
inductive Ending
  /-- It has done its work, or has failed to. -/
  | finished (status : ExitStatus)
  /-- It has shown its help or its version. -/
  | shown
  deriving DecidableEq, Repr

/-- The status of an ending. -/
def Ending.status : Ending → ExitStatus
  | .finished s => s
  | .shown => .success

namespace CommandLine

/-- The name that this part of the program logs under. -/
def logger : String := "problemify.cli"

/-- What the status line says is being done. -/
def statusVerb : Variant → String
  | .problem => "Problemifying"
  | .solution => "Solutionifying"

/-- What a dry run says would be done. -/
def announcement : FileAction → String
  | .deleted => "delete"
  | .rewritten => "rewrite"

/-- Print a line. -/
def say (line : String) : Act Unit :=
  Act.call (.print (line ++ "\n"))

/-- Print lines to the error output. -/
def complain (lines : String) : Act Unit :=
  Act.call (.complain (lines ++ "\n"))

/-- Report a fault of the invocation. -/
def refuse (f : UsageFault) : Act Ending := do
  complain Help.text
  complain ("\nError: " ++ f.toReport.message)
  return .finished .usage

/-- Report a failure of the run. -/
def abort (r : ErrorReport) : Act Ending := do
  Log.event logger .error "run_aborted" r.toFields
  complain ("Error: " ++ r.message)
  return .finished r.status

/-- Say what a dry run would do to each file. -/
def announce : List FileResult → Act Unit
  | [] => return ()
  | r :: rs => do
    say (announcement r.action ++ " " ++ r.path.text)
    announce rs

/-- Carry an invocation out. -/
def perform [Codecs] (i : Invocation) : Act Ending := do
  Log.configure (if i.verbose then some "DEBUG" else none) none none
  let root := Path.resolve (← Act.call .directory) (Path.ofText i.path)
  say (statusVerb i.variant ++ " " ++ root.text)
  match ← (run root i.variant none i.dryRun).outcome with
  | .ok report =>
    if i.dryRun then announce report.results
    return .finished .success
  | .error (.failure f) => abort f.toReport
  | .error e => throw e

/-- **The command.** -/
def respond [Codecs] (args : List String) : Act Ending :=
  match Invocation.ofArguments args with
  | .ok i => perform i
  | .error .help => do
    say Help.text
    return .shown
  | .error .version => do
    say Help.version
    return .shown
  | .error (.fault f) => refuse f

end CommandLine

end Handout
