import Handout.ErrorReport
import Handout.Marker
import Handout.Number.Numeral

/-!
# Arguments

The arguments of the command are flags and words. Arguments are read from left to right: a flag for
help or the version ends the reading, and so does a variant that contradicts an earlier one. The first
word is the path. What is missing, or left over, is only looked for at the end.

Flags of one letter may stand together behind one hyphen. No flag takes a value. A negative number is
a word, and so is an unknown flag with a space in it. Two hyphens make words of all that follows; they
count as left over unless they stand next to the path.
-/

namespace Handout

/-- A flag of the command. -/
inductive Flag
  | variant (v : Variant)
  | dryRun
  | verbose
  | help
  | version
  deriving DecidableEq, Repr

namespace Flag

/-- The spellings of the flags. -/
def spellings : List (String × Flag) := [
  ("-h", .help), ("--help", .help), ("-p", .variant .problem), ("--problem", .variant .problem),
  ("-s", .variant .solution), ("--solution", .variant .solution), ("--dry-run", .dryRun),
  ("--verbose", .verbose), ("-v", .verbose), ("--version", .version)]

/-- The flag that a text spells. -/
def ofText? (text : List Char) : Option Flag :=
  spellings.lookup (String.ofList text)

/-- The name of a flag in messages. -/
def name : Flag → String
  | .variant .problem => "-p/--problem"
  | .variant .solution => "-s/--solution"
  | .dryRun => "--dry-run"
  | .verbose => "--verbose/-v"
  | .help => "-h/--help"
  | .version => "--version"

end Flag

/-- What is wrong with the arguments. -/
inductive UsageFault
  /-- A flag with a value attached to it. -/
  | attached (f : Flag) (value : List Char)
  /-- A variant after the other one. -/
  | contradiction (later : Variant)
  | noPath
  | noVariant
  | leftOver (arguments : List String)
  | emptyPath
  deriving DecidableEq, Repr

namespace UsageFault

/-- A fault as a report. -/
def toReport : UsageFault → ErrorReport
  | .attached f value =>
    .usage ("argument " ++ f.name ++ ": ignored explicit argument " ++
      Quoted.encode (String.ofList value)) none .null
  | .contradiction later =>
    .usage ("argument " ++ (Flag.variant later).name ++ ": not allowed with argument " ++
      (Flag.variant later.other).name) none .null
  | .noPath => .usage "the following arguments are required: path" none .null
  | .noVariant => .usage "one of the arguments -p/--problem -s/--solution is required" none .null
  | .leftOver arguments => .usage ("unrecognized arguments: " ++ " ".intercalate arguments) none .null
  | .emptyPath => .usage "path must not be empty" (some "path") (.text "")

end UsageFault

/-! ## One argument -/

/-- What an argument is on its own. -/
inductive Argument
  | word
  | flags (fs : List Flag)
  | unknown
  deriving DecidableEq, Repr

namespace Argument

/-- The flags of the letters behind a flag. -/
def letters (f : Flag) : List Char → Except UsageFault (List Flag)
  | [] => .ok [f]
  | c :: r =>
    match Flag.ofText? ['-', c] with
    | some g => do return f :: (← letters g r)
    | none => .error (.attached f (c :: r))

/-- The flags of a spelling with a value attached to it. Only a flag of one letter takes more
letters, and it takes at least one. -/
def withValue (f : Flag) (spelling value : List Char) : Except UsageFault Argument :=
  if spelling.length ≠ 2 ∨ value = [] then .error (.attached f value)
  else (letters f value).map .flags

/-- What stands before the first equals sign and after it, where there is one. -/
def splitEquals? : List Char → Option (List Char × List Char)
  | [] => none
  | c :: r => if c = '=' then some ([], r) else (splitEquals? r).map fun (a, b) => (c :: a, b)

/-- A decimal digit of any script. -/
def isDigit (c : Char) : Bool := (Digit.value? c).isSome

/-- A negative number: a hyphen, digits, and at most one point with digits after it. -/
def isNegativeNumber (text : List Char) : Bool :=
  let text := if text.getLast? = some '\n' then text.dropLast else text
  match text with
  | '-' :: r =>
    match r.dropWhile isDigit with
    | [] => !r.isEmpty
    | '.' :: t => !t.isEmpty && t.all isDigit
    | _ => false
  | _ => false

/-- A text with a hyphen before it that spells no flag as a whole. -/
def ofUnspelled (text : List Char) : Except UsageFault Argument :=
  let short := text.take 2
  match Flag.ofText? short with
  | some f => withValue f short (text.drop 2)
  | none =>
    if isNegativeNumber text || text.contains ' ' then .ok .word else .ok .unknown

/-- **What an argument is.** -/
def ofText (text : List Char) : Except UsageFault Argument :=
  if text.head? ≠ some '-' then .ok .word
  else
    match Flag.ofText? text with
    | some f => .ok (.flags [f])
    | none =>
      if text.length = 1 then .ok .word
      else
        match splitEquals? text with
        | some (spelling, value) =>
          match Flag.ofText? spelling with
          | some f => withValue f spelling value
          | none => ofUnspelled text
        | none => ofUnspelled text

end Argument

/-! ## All arguments -/

/-- What the arguments ask for. -/
structure Invocation where
  variant : Variant
  path : String
  dryRun : Bool
  verbose : Bool
  deriving DecidableEq, Repr

/-- Why the reading of arguments ends before their end. -/
inductive EarlyEnd
  | help
  | version
  | fault (f : UsageFault)
  deriving DecidableEq, Repr

/-- The arguments read so far. -/
structure Reading where
  variant : Option Variant
  path : Option String
  dryRun : Bool
  verbose : Bool
  leftOver : List String
  /-- Whether the last argument was the path. -/
  atPath : Bool
  deriving DecidableEq, Repr

namespace Reading

/-- No arguments yet. -/
def start : Reading := ⟨none, none, false, false, [], false⟩

/-- A reading past a flag. -/
def flag (r : Reading) (f : Flag) : Except EarlyEnd Reading :=
  match f with
  | .help => .error .help
  | .version => .error .version
  | .dryRun => .ok { r with dryRun := true }
  | .verbose => .ok { r with verbose := true }
  | .variant v =>
    if r.variant = some v.other then .error (.fault (.contradiction v))
    else .ok { r with variant := some v }

/-- A reading past something that is left over. -/
def leave (r : Reading) (argument : String) : Reading :=
  { r with leftOver := r.leftOver ++ [argument], atPath := false }

/-- A reading past a word, which is the path if none was before. -/
def word (r : Reading) (argument : String) : Reading :=
  match r.path with
  | none => { r with path := some argument, atPath := true }
  | some _ => r.leave argument

/-- A reading past two hyphens before some words. -/
def separator (r : Reading) (words : List String) : Reading :=
  let r := if r.atPath ∨ (r.path = none ∧ words ≠ []) then r else r.leave "--"
  words.foldl word r

/-- A reading past one argument. -/
def argument (r : Reading) (a : String) (kind : Argument) : Except EarlyEnd Reading :=
  match kind with
  | .word => .ok (r.word a)
  | .unknown => .ok (r.leave a)
  | .flags fs => fs.foldlM flag { r with atPath := false }

/-- A reading past all arguments. -/
def all : List String → Reading → Except EarlyEnd Reading
  | [], r => .ok r
  | a :: as, r =>
    if a = "--" then .ok (r.separator as)
    else do all as (← r.argument a (← (Argument.ofText a.toList).mapError .fault))

/-- The invocation of a reading that is complete. -/
def finish (r : Reading) : Except UsageFault Invocation :=
  match r.path, r.variant with
  | none, _ => .error .noPath
  | some _, none => .error .noVariant
  | some path, some v =>
    if r.leftOver ≠ [] then .error (.leftOver r.leftOver)
    else if path = "" then .error .emptyPath
    else .ok ⟨v, path, r.dryRun, r.verbose⟩

end Reading

/-- **The invocation that arguments ask for.** -/
def Invocation.ofArguments (args : List String) : Except EarlyEnd Invocation := do
  (← Reading.all args .start).finish.mapError .fault

end Handout
