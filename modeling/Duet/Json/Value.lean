import Duet.Text.Decimal
import Duet.Text.Quoted

/-!
# JSON values and their texts

A value is written compactly, or with one member or element a line, indented by two spaces a
level. Strings are written with as few escapes as the format allows.
-/

namespace Duet

/-- A JSON value whose numbers are whole. -/
inductive Json where
  | null
  | bool (b : Bool)
  | int (n : Int)
  | str (cs : List Char)
  | arr (elements : List Json)
  | obj (members : List (List Char × Json))

namespace Json

/-! ## Strings -/

/-- The escape of a character inside a string; characters that need none stand for themselves. -/
def escapeChar (c : Char) : List Char :=
  if c = '"' then ['\\', '"']
  else if c = '\\' then ['\\', '\\']
  else if c = '\x08' then ['\\', 'b']
  else if c = '\t' then ['\\', 't']
  else if c = '\n' then ['\\', 'n']
  else if c = '\x0c' then ['\\', 'f']
  else if c = '\r' then ['\\', 'r']
  else if c < ' ' then
    ['\\', 'u', '0', '0', Text.hexChar (c.toNat / 16), Text.hexChar (c.toNat % 16)]
  else [c]

/-- The inside of a string literal. -/
def escape (cs : List Char) : List Char :=
  cs.flatMap escapeChar

/-- A string literal. -/
def writeString (cs : List Char) : List Char :=
  '"' :: escape cs ++ ['"']

/-! ## Compact texts -/

mutual

/-- The text of a value without any blank. -/
def compact : Json → List Char
  | .null => "null".toList
  | .bool b => if b then "true".toList else "false".toList
  | .int n => Text.decimalInt n
  | .str cs => writeString cs
  | .arr es => '[' :: compactElements es ++ [']']
  | .obj ms => '\x7b' :: compactMembers ms ++ ['\x7d']

/-- Elements with commas between them. -/
def compactElements : List Json → List Char
  | [] => []
  | [e] => e.compact
  | e :: es => e.compact ++ ',' :: compactElements es

/-- Members with commas between them. -/
def compactMembers : List (List Char × Json) → List Char
  | [] => []
  | [(k, v)] => writeString k ++ ':' :: v.compact
  | (k, v) :: ms => writeString k ++ ':' :: v.compact ++ ',' :: compactMembers ms

end

/-! ## Indented texts -/

/-- A line feed and the indent of a level. -/
def newLine (level : Nat) : List Char :=
  '\n' :: List.replicate (2 * level) ' '

mutual

/-- The text of a value that stands at an indent level. -/
def pretty (level : Nat) : Json → List Char
  | .null => "null".toList
  | .bool b => if b then "true".toList else "false".toList
  | .int n => Text.decimalInt n
  | .str cs => writeString cs
  | .arr [] => ['[', ']']
  | .arr es => '[' :: prettyElements (level + 1) es ++ newLine level ++ [']']
  | .obj [] => ['\x7b', '\x7d']
  | .obj ms => '\x7b' :: prettyMembers (level + 1) ms ++ newLine level ++ ['\x7d']

/-- Elements on lines of their own. -/
def prettyElements (level : Nat) : List Json → List Char
  | [] => []
  | [e] => newLine level ++ e.pretty level
  | e :: es => newLine level ++ e.pretty level ++ ',' :: prettyElements level es

/-- Members on lines of their own. -/
def prettyMembers (level : Nat) : List (List Char × Json) → List Char
  | [] => []
  | [(k, v)] => newLine level ++ writeString k ++ ':' :: ' ' :: v.pretty level
  | (k, v) :: ms =>
    newLine level ++ writeString k ++ ':' :: ' ' :: v.pretty level ++ ',' :: prettyMembers level ms

end

end Json

end Duet
