import Handout.Encoding.Utf8
import Handout.Encoding.Utf16
import Handout.Encoding.SingleByte
import Handout.Encoding.Switched

/-!
# Encodings

The encodings that files may be kept in, and the names they are asked for by. A name counts without
regard to case, and every run of characters other than letters, digits and points of ASCII counts as
one separator, those at the ends as none.

Two encodings have a mark. UTF-8 with a mark drops one mark when it reads and always writes one.
UTF-16 needs a mark to read anything, takes its order from it, and always writes the little order.

## What is described and what is not

Nine encodings are described, each with the names that the platform knows for it. The platform has
many more. Those are a parameter: a `Codecs` gives, for a name that none of the nine has, the `Codec`
that it asks for, if any. Nothing is assumed of a codec, neither that it can write what it reads nor
that it reads back what it writes; `Codec.Rereads` says the latter of one. Where no other parameter is
given, no other name is known.

A text is a list of characters. A codec that would give halves of surrogate pairs, which are no
characters, refuses such bytes here.
-/

namespace Handout

/-! ## Codecs -/

/-- Why a codec refuses: a fault at some place of what it is given, or another reason, in its words. -/
inductive Refusal
  | fault (message : String)
  | other (reason : String)
  deriving DecidableEq, Repr

/-- How texts are kept as bytes. -/
structure Codec where
  decode : List UInt8 → Except Refusal (List Char)
  encode : List Char → Except Refusal (List UInt8)

/-- What a codec writes it reads back. -/
def Codec.Rereads (c : Codec) : Prop :=
  ∀ text bytes, c.encode text = .ok bytes → c.decode bytes = .ok text

/-- The codecs of the platform beside the encodings that are described. -/
class Codecs where
  /-- The codec that a name asks for. -/
  other? : String → Option Codec

/-- A platform without any other codec. -/
instance : Codecs := ⟨fun _ => none⟩

/-! ## The encodings that are described -/

/-- An encoding of text. -/
inductive Encoding
  | utf8
  | utf8Marked
  | utf16Marked
  | utf16 (order : Utf16.Order)
  | single (table : SingleByte.Table)
  | switched
  deriving DecidableEq, Repr

namespace Encoding

/-- A name in its plain form: lower case, one underscore for every separator within it. -/
def plainName (name : String) : String :=
  let put := fun (s : List Char × Bool) (c : Char) =>
    if (c.isAlphanum : Bool) || c == '.' then
      ((if s.2 && !s.1.isEmpty then [c.toLower, '_'] else [c.toLower]) ++ s.1, false)
    else (s.1, true)
  String.ofList (name.toList.foldl put ([], false)).1.reverse

/-- What the platform keeps under a name. -/
inductive Named
  | text (e : Encoding)
  /-- A transform of bytes or of texts, which is no encoding. -/
  | transform
  deriving DecidableEq, Repr

/-- The proper names, in their plain form. -/
def names : List (String × Named) := [
  ("utf_8", .text .utf8), ("utf_8_sig", .text .utf8Marked), ("utf_16", .text .utf16Marked),
  ("utf_16_le", .text (.utf16 .little)), ("utf_16_be", .text (.utf16 .big)),
  ("ascii", .text (.single .ascii)), ("latin_1", .text (.single .latin1)),
  ("cp1252", .text (.single .western)), ("iso2022_jp", .text .switched),
  ("base64_codec", .transform), ("bz2_codec", .transform), ("hex_codec", .transform),
  ("quopri_codec", .transform), ("rot_13", .transform), ("uu_codec", .transform),
  ("zlib_codec", .transform)]

/-- The other names of ASCII. -/
def asciiAliases : List String :=
  ["us_ascii", "us", "646", "ansi_x3.4_1968", "ansi_x3_4_1968", "ansi_x3.4_1986", "cp367", "csascii",
    "ibm367", "iso646_us", "iso_646.irv_1991", "iso_ir_6"]

/-- The other names of Latin-1. -/
def latin1Aliases : List String :=
  ["latin1", "latin", "l1", "8859", "cp819", "csisolatin1", "ibm819", "iso8859", "iso8859_1",
    "iso_8859_1", "iso_8859_1_1987", "iso_ir_100"]

/-- The other names of the rest. -/
def restAliases : List (String × Named) := [
  ("utf8", .text .utf8), ("u8", .text .utf8), ("utf", .text .utf8), ("utf8_ucs2", .text .utf8),
  ("utf8_ucs4", .text .utf8), ("cp65001", .text .utf8),
  ("utf16", .text .utf16Marked), ("u16", .text .utf16Marked),
  ("utf_16le", .text (.utf16 .little)), ("unicodelittleunmarked", .text (.utf16 .little)),
  ("utf_16be", .text (.utf16 .big)), ("unicodebigunmarked", .text (.utf16 .big)),
  ("1252", .text (.single .western)), ("windows_1252", .text (.single .western)),
  ("csiso2022jp", .text .switched), ("iso2022jp", .text .switched), ("iso_2022_jp", .text .switched),
  ("base64", .transform), ("base_64", .transform), ("bz2", .transform), ("hex", .transform),
  ("quopri", .transform), ("quoted_printable", .transform), ("quotedprintable", .transform),
  ("rot13", .transform), ("uu", .transform), ("zip", .transform), ("zlib", .transform)]

/-- The other names, in their plain form. -/
def aliases : List (String × Named) :=
  asciiAliases.map (fun name => (name, .text (.single .ascii))) ++
    (latin1Aliases.map (fun name => (name, .text (.single .latin1))) ++ restAliases)

/-- Whether a name has a zero in it, which the system takes for no name at all. -/
def isBroken (name : String) : Bool :=
  name.toList.contains '\x00'

/-- What a name asks for. A point in one of the other names may stand for an underscore. -/
def named? (name : String) : Option Named :=
  if isBroken name then none
  else
    let plain := plainName name
    let joined := String.ofList (plain.toList.map fun c => if c = '.' then '_' else c)
    aliases.lookup plain <|> aliases.lookup joined <|> names.lookup plain

/-- The described encoding that a name asks for. -/
def ofName? (name : String) : Option Encoding :=
  match named? name with
  | some (.text e) => some e
  | _ => none

/-- The name that stands in the standard settings. -/
theorem ofName?_utf8 : ofName? "utf-8" = some .utf8 := by
  decide +kernel

/-- **The text of bytes** in an encoding. -/
def decode : Encoding → List UInt8 → Except Refusal (List Char)
  | .utf8, bytes => (Utf8.decode bytes).mapError fun f => .fault f.message
  | .utf8Marked, bytes =>
    if bytes.isPrefixOf Utf8.mark && bytes ≠ Utf8.mark then .ok []
    else
      let rest := if Utf8.mark.isPrefixOf bytes then bytes.drop 3 else bytes
      (Utf8.decode rest).mapError fun f => .fault f.message
  | .utf16Marked, bytes =>
    match Utf16.markedOrder? bytes with
    | some o => (Utf16.decodeAt o 2 (bytes.drop 2)).mapError fun f => .fault f.message
    | none =>
      match Utf16.decode .little bytes with
      | .error f => .error (.fault f.message)
      | .ok [] => .ok []
      | .ok (_ :: _) => .error (.other "UTF-16 stream does not start with BOM")
  | .utf16 o, bytes => (Utf16.decode o bytes).mapError fun f => .fault f.message
  | .single t, bytes => (SingleByte.decode t bytes).mapError fun f => .fault f.message
  | .switched, bytes => (Switched.decode bytes).mapError fun f => .fault f.message

/-- **The bytes of a text** in an encoding, where it has all the characters. -/
def encode : Encoding → List Char → Except Refusal (List UInt8)
  | .utf8, text => .ok (Utf8.encode text)
  | .utf8Marked, text => .ok (Utf8.mark ++ Utf8.encode text)
  | .utf16Marked, text => .ok ([0xFF, 0xFE] ++ Utf16.encode .little text)
  | .utf16 o, text => .ok (Utf16.encode o text)
  | .single t, text => (SingleByte.encode t text).mapError fun f => .fault f.message
  | .switched, text => (Switched.encode text).mapError fun f => .fault f.message

/-- An encoding as a codec. -/
def codec (e : Encoding) : Codec :=
  ⟨e.decode, e.encode⟩

end Encoding

/-! ## Names -/

namespace Codec

/-- The codec that a name asks for. -/
def ofName? [Codecs] (name : String) : Option Codec :=
  match Encoding.ofName? name with
  | some e => some e.codec
  | none => if Encoding.isBroken name then none else Codecs.other? name

/-- The name of a described encoding asks for that one, whatever other codecs there are. -/
theorem ofName?_of_described [Codecs] {name : String} {e : Encoding}
    (h : Encoding.ofName? name = some e) : ofName? name = some e.codec := by
  simp only [ofName?, h]

theorem eq_of_described [Codecs] {name : String} {e : Encoding} {c : Codec}
    (h : Encoding.ofName? name = some e) (hc : ofName? name = some c) : c = e.codec :=
  Option.some.inj (hc.symm.trans (ofName?_of_described h))

/-- A name that asks for a codec is not broken. -/
theorem not_isBroken_of_ofName? [Codecs] {name : String} {c : Codec} (h : ofName? name = some c) :
    Encoding.isBroken name = false := by
  cases hname : Encoding.isBroken name with
  | false => rfl
  | true => simp [ofName?, Encoding.ofName?, Encoding.named?, hname] at h

/-- What is said of a name that asks for no codec. -/
def unknown (name : String) : String :=
  if Encoding.isBroken name then "embedded null character"
  else
    match Encoding.named? name with
    | some .transform =>
      "'" ++ name ++ "' is not a text encoding; use codecs.open() to handle arbitrary codecs"
    | _ => "unknown encoding: " ++ name

end Codec

end Handout
