import Handout.Data
import Handout.Path

/-!
# Errors as reports

An error that ends a run has a code, a message, details and an exit status. `ErrorReport.toData` is
its form in events: the details are left out where there are none.

Unbalanced markers are no error: they stay in the text.
-/

namespace Handout

/-- The status that the program exits with. -/
inductive ExitStatus
  | success
  | usage
  | filesystem
  deriving DecidableEq, Repr

/-- The number of a status. -/
def ExitStatus.number : ExitStatus → Nat
  | .success => 0
  | .usage => 1
  | .filesystem => 2

/-- What kind of thing went wrong. -/
inductive ErrorCode
  /-- The invocation is incomplete or contradicts itself; nothing was touched. -/
  | invalidArguments
  /-- A path could not be listed, examined, read, decoded, deleted or written. -/
  | filesystem
  deriving DecidableEq, Repr

/-- The word for a code. -/
def ErrorCode.word : ErrorCode → String
  | .invalidArguments => "INVALID_ARGUMENTS"
  | .filesystem => "FILESYSTEM_ERROR"

/-- The code that a word names. -/
def ErrorCode.ofWord? (w : String) : Option ErrorCode :=
  if w = "INVALID_ARGUMENTS" then some .invalidArguments
  else if w = "FILESYSTEM_ERROR" then some .filesystem
  else none

/-- An error, reported. -/
structure ErrorReport where
  code : ErrorCode
  message : String
  details : Mapping
  status : ExitStatus
  deriving Repr

namespace ErrorReport

/-- A report of any code, which counts as one about the invocation. -/
def general (code : ErrorCode) (message : String) (details : Mapping) : ErrorReport :=
  ⟨code, message, details, .usage⟩

/-- A report about the invocation: the parameter that is wrong, and what was given for it. -/
def usage (message : String) (parameter : Option String) (received : Data) : ErrorReport :=
  let named := match parameter with
    | some p => if p = "" then [] else [(Data.text "param_name", Data.text p)]
    | none => []
  let given := match received with
    | .null => []
    | d => [(Data.text "received", Data.text d.plain)]
  ⟨.invalidArguments, message, named ++ given, .usage⟩

/-- A report about a path: what could not be done with it, and why. An empty reason is none. -/
def file (path operation : String) (reason : Option String) : ErrorReport :=
  let reason := reason.filter (· ≠ "")
  let message := "Cannot " ++ operation ++ " " ++ path
  let base := [(Data.text "path", Data.text path), (Data.text "operation", Data.text operation)]
  match reason with
  | none => ⟨.filesystem, message, base, .filesystem⟩
  | some r => ⟨.filesystem, message ++ ": " ++ r, base ++ [(.text "reason", .text r)], .filesystem⟩

/-- A report as the fields of an event. -/
def toFields (r : ErrorReport) : List (String × Data) :=
  [("ok", .bool false), ("error_code", .text r.code.word), ("error", .text r.message)] ++
    (if r.details.isEmpty then [] else [("details", .map r.details)])

/-- A report as a value. -/
def toData (r : ErrorReport) : Data :=
  .map (r.toFields.map fun f => (.text f.1, f.2))

end ErrorReport

end Handout
