import Duet.Text.Decimal
import Duet.Text.Quoted
import Duet.Text.Utf8

/-!
# Failures of reading JSON

Reading stops at the first thing that is wrong. A failure says what it was and how much of the
text lay beyond the place where it was noticed, counted in bytes; from this and the text the
line and the column follow.

**The place is a byte, not a character:** a failure may be noticed after the first byte of a
character that has more. Lines are counted from 1, and the column is the number of bytes of the
last line that had been looked at.
-/

namespace Duet.Json

/-- What stood in a text where something else was wanted. -/
inductive Found where
  | null
  | bool (b : Bool)
  | integer (n : Int)
  | real (text : List Char)
  | string (cs : List Char)
  | sequence
  | map
  deriving DecidableEq, Repr

/-- The words for what was found. -/
def Found.phrase : Found → String
  | .null => "null"
  | .bool b => "boolean `" ++ (if b then "true" else "false") ++ "`"
  | .integer n => "integer `" ++ Text.intText n ++ "`"
  | .real text => "floating point `" ++ String.ofList text ++ "`"
  | .string cs => "string " ++ String.ofList (Text.quote cs)
  | .sequence => "sequence"
  | .map => "map"

/-- The three classes of failures. -/
inductive Category where
  | syntactic
  | data
  | endOfText
  deriving DecidableEq, Repr

/-- What is wrong with a text. -/
inductive Problem where
  -- the text is no JSON
  | expectedValue
  | expectedIdent
  | invalidNumber
  | numberOutOfRange
  | invalidEscape
  | loneSurrogate
  | unexpectedEndOfHexEscape
  | controlCharacter
  | keyMustBeString
  | expectedColon
  | expectedMemberOrEnd
  | expectedElementOrEnd
  | trailingComma
  | trailingCharacters
  -- the text ends too soon
  | endInValue
  | endInString
  | endInList
  | endInObject
  -- the text is JSON of another shape
  | invalidType (found : Found) (expected : String)
  | invalidValue (n : Int) (expected : String)
  | invalidLength (count : Nat) (expected : String)
  | missingField (name : String)
  | duplicateField (name : String)
  | unknownField (name : List Char) (known : List String)
  | unknownVariant (name : List Char) (known : List String)
  | durationOverflow
  deriving DecidableEq, Repr

namespace Problem

/-- The class of a problem. -/
def category : Problem → Category
  | .endInValue | .endInString | .endInList | .endInObject => .endOfText
  | .invalidType .. | .invalidValue .. | .invalidLength .. | .missingField _
  | .duplicateField _ | .unknownField .. | .unknownVariant .. | .durationOverflow => .data
  | _ => .syntactic

/-- A list of names for a sentence: one, two with a word between, or several after a phrase. -/
def alternatives (names : List String) : String :=
  match names.map fun n => "`" ++ n ++ "`" with
  | [] => "there are no fields"
  | [a] => a
  | [a, b] => a ++ " or " ++ b
  | many => "one of " ++ ", ".intercalate many

/-- The words for a problem. -/
def phrase : Problem → String
  | .expectedValue => "expected value"
  | .expectedIdent => "expected ident"
  | .invalidNumber => "invalid number"
  | .numberOutOfRange => "number out of range"
  | .invalidEscape => "invalid escape"
  | .loneSurrogate => "lone leading surrogate in hex escape"
  | .unexpectedEndOfHexEscape => "unexpected end of hex escape"
  | .controlCharacter => "control character (\\u0000-\\u001F) found while parsing a string"
  | .keyMustBeString => "key must be a string"
  | .expectedColon => "expected `:`"
  | .expectedMemberOrEnd => "expected `,` or `\x7d`"
  | .expectedElementOrEnd => "expected `,` or `]`"
  | .trailingComma => "trailing comma"
  | .trailingCharacters => "trailing characters"
  | .endInValue => "EOF while parsing a value"
  | .endInString => "EOF while parsing a string"
  | .endInList => "EOF while parsing a list"
  | .endInObject => "EOF while parsing an object"
  | .invalidType found expected => "invalid type: " ++ found.phrase ++ ", expected " ++ expected
  | .invalidValue n expected =>
    "invalid value: " ++ (Found.integer n).phrase ++ ", expected " ++ expected
  | .invalidLength count expected =>
    "invalid length " ++ Text.natText count ++ ", expected " ++ expected
  | .missingField name => "missing field `" ++ name ++ "`"
  | .duplicateField name => "duplicate field `" ++ name ++ "`"
  | .unknownField name known =>
    "unknown field `" ++ String.ofList name ++ "`, expected " ++ alternatives known
  | .unknownVariant name known =>
    "unknown variant `" ++ String.ofList name ++ "`, expected " ++ alternatives known
  | .durationOverflow => "overflow deserializing Duration"

end Problem

/-- A problem and the number of bytes of the text beyond the place of it. -/
structure Failure where
  problem : Problem
  beyond : Nat
  deriving DecidableEq, Repr

/-- A problem noticed where the rest of the text begins. -/
def Failure.here (problem : Problem) (rest : List Char) : Failure :=
  ⟨problem, Text.Utf8.size rest⟩

/-- A problem noticed after looking at `bytes` bytes of the rest, or at its end. -/
def Failure.after (bytes : Nat) (problem : Problem) (rest : List Char) : Failure :=
  ⟨problem, Text.Utf8.size rest - bytes⟩

/-- A problem noticed by looking at the next byte. -/
def Failure.peek (problem : Problem) (rest : List Char) : Failure :=
  .after 1 problem rest

/-! ## Places -/

/-- A place in a text. -/
structure Place where
  line : Nat
  column : Nat
  deriving DecidableEq, Repr

/-- The place `bytes` bytes further on. -/
def Place.advance (place : Place) (bytes : Nat) : List Char → Place
  | [] => place
  | c :: cs =>
    if bytes = 0 then place
    else if c = '\n' then Place.advance ⟨place.line + 1, 0⟩ (bytes - 1) cs
    else
      let width := min bytes c.utf8Size
      Place.advance ⟨place.line, place.column + width⟩ (bytes - width) cs

/-- Where in a text a failure was noticed. -/
def Failure.place (text : List Char) (f : Failure) : Place :=
  Place.advance ⟨1, 0⟩ (Text.Utf8.size text - f.beyond) text

/-- The full message of a failure. -/
def Failure.message (text : List Char) (f : Failure) : String :=
  let place := f.place text
  f.problem.phrase ++ " at line " ++ Text.natText place.line
    ++ " column " ++ Text.natText place.column

end Duet.Json
