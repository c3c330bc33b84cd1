import Handout.Discovery
import Handout.Plan

/-!
# Processing one file

A file is read whole, its plan is made from its text, and then at most one thing is done to it: it is
deleted, or it is written in place. A dry run only says what would be done. Line breaks are not
touched, so what a variant keeps stays as it is byte for byte where the encoding writes it as it was.

A file that is opened to be written is empty from then on. When its new text turns out to have no
bytes in the encoding, it stays empty.
-/

namespace Handout

/-- What was done to a file. -/
structure FileResult where
  path : Path
  action : FileAction
  /-- Whether its text is another one now; always said of a file that is deleted. -/
  changed : Bool
  deriving DecidableEq, Repr

namespace Processing

/-- The name that this part of the program logs under. -/
def logger : String := "problemify.processor"

/-- The name of the encoding that is asked for, or of that of the settings. -/
def encodingName : Option String → Act String
  | some name => return name
  | none => return (← Config.settings).processing.encoding

/-- The text of a file, with the codec of the encoding that it is in. A name is looked up once the
file is open; a broken one is refused before. -/
def readText [Codecs] (p : Path) (encoding : String) : Act (Codec × List Char) := do
  if Encoding.isBroken encoding then throw (.unknownEncoding encoding)
  match ← Act.call (.read p) with
  | .error e => Discovery.fail p .read e
  | .ok bytes =>
    match Codec.ofName? encoding with
    | none => throw (.unknownEncoding encoding)
    | some codec =>
      match codec.decode bytes with
      | .ok text => return (codec, text)
      | .error (.fault message) => throw (.failure ⟨p, .decode, message⟩)
      | .error (.other reason) => throw (@Stop.unmarked reason)

/-- Delete a file. -/
def deleteFile (p : Path) : Act Unit := do
  match ← Act.call (.delete p) with
  | .ok () => return ()
  | .error e => Discovery.fail p .delete e

/-- The bytes that are put into a file: those of a text, and none when it has none. -/
def written (x : Except Refusal (List UInt8)) : List UInt8 :=
  match x with
  | .ok bytes => bytes
  | .error _ => []

/-- The stop of a text that its codec refuses to write. -/
def unwritten : Refusal → Stop
  | .fault message => @Stop.unencodable message
  | .other reason => @Stop.unmarked reason

/-- Write a text into a file by a codec. -/
def writeText (p : Path) (codec : Codec) (text : List Char) : Act Unit := do
  match ← Act.call (.write p (written (codec.encode text))) with
  | .error e => Discovery.fail p .write e
  | .ok () =>
    match codec.encode text with
    | .ok _ => return ()
    | .error r => throw (unwritten r)

end Processing

open Processing in
/-- **Process a file** for a variant, in the encoding given or that of the settings. -/
def processFile [Codecs] (p : Path) (v : Variant) (encoding : Option String) (dryRun : Bool) :
    Act FileResult := do
  let (codec, text) ← readText p (← encodingName encoding)
  match Plan.of v text with
  | .delete =>
    if !dryRun then deleteFile p
    Log.event logger .debug "file_deleted" [("path", .text p.text), ("dry_run", .bool dryRun)]
    return ⟨p, .deleted, true⟩
  | .rewrite new =>
    let changed := new != text
    if !dryRun then writeText p codec new
    Log.event logger .debug "file_rewritten"
      [("path", .text p.text), ("changed", .bool changed), ("dry_run", .bool dryRun)]
    return ⟨p, .rewritten, changed⟩

end Handout
