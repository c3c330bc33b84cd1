import Handout.Data

/-!
# Data as JSON

The JSON form of a value, on one line: a space after every comma and colon, entries in their order,
characters beyond ASCII as they are. Only quotes, backslashes and control characters are escaped.
A value that JSON has no form for is written as the text of its literal.
-/

namespace Handout.Json

/-- The layout of numbers: as everywhere, but with the words of JSON readers for the numbers that
JSON lacks. -/
def numberLayout : NumberLayout :=
  ⟨-4, 16, true, 2, "Infinity", "NaN"⟩

/-- One character of a quoted text. -/
def encodeChar (c : Char) : List Char :=
  if c = '"' then ['\\', '"']
  else if c = '\\' then ['\\', '\\']
  else if c = '\n' then ['\\', 'n']
  else if c = '\r' then ['\\', 'r']
  else if c = '\t' then ['\\', 't']
  else if c = '\x08' then ['\\', 'b']
  else if c = '\x0c' then ['\\', 'f']
  else if c.toNat < 0x20 then '\\' :: 'u' :: Hex.digits 4 c.toNat
  else [c]

/-- A quoted text. -/
def quote (s : String) : String :=
  String.ofList ('"' :: s.toList.flatMap encodeChar ++ ['"'])

/-- A key, which is always a text. -/
def key : Data → String
  | .text s => quote s
  | .null => "\"null\""
  | .bool b => if b then "\"true\"" else "\"false\""
  | d => quote d.literal

mutual

/-- **The JSON form of a value.** -/
def encode : Data → String
  | .null => "null"
  | .bool b => if b then "true" else "false"
  | .int n => toString n
  | .float x => numberLayout.write x
  | .text s => quote s
  | .list xs => "[" ++ ", ".intercalate (encodeAll xs) ++ "]"
  | .tuple xs => "[" ++ ", ".intercalate (encodeAll xs) ++ "]"
  | .map es => "\x7b" ++ ", ".intercalate (encodeEntries es) ++ "\x7d"
  | d => quote d.literal
  termination_by structural d => d

/-- The JSON forms of the values of a list. -/
def encodeAll : List Data → List String
  | [] => []
  | x :: xs => encode x :: encodeAll xs
  termination_by structural xs => xs

/-- The JSON forms of the entries of a mapping. -/
def encodeEntries : List (Data × Data) → List String
  | [] => []
  | (k, v) :: r => (key k ++ ": " ++ encode v) :: encodeEntries r
  termination_by structural es => es

end

end Handout.Json
