import Duet.Json.Skip

/-!
# Reading values of a wanted shape

Typed values are read straight from the text: the shape that is wanted decides what is looked
for, and a value of another shape is named in the failure. Inside a list or an object a problem
with the data, such as a key that came twice, is given its place only after the bracket's end
has been looked for; `Halt` keeps such a problem apart from a failure that has its place.

**Reading goes from left to right and stops at the first failure.**
-/

namespace Duet.Json

/-! ## Values that are not wanted -/

/-- The failure of a value that is not of the wanted shape. A scalar is read first, so that the
failure's place is after it; a list or an object is not entered. -/
def unwanted (expected : String) (text : List Char) : Failure :=
  let wrong (found : Found) (rest : List Char) : Failure :=
    .here (.invalidType found expected) rest
  let word (letters : String) (found : Found) (rest : List Char) : Failure :=
    match readWord letters.toList rest with
    | .ok ((), rest) => wrong found rest
    | .error f => f
  let number (isNegative : Bool) (rest : List Char) : Failure :=
    match readNumber isNegative rest with
    | .ok (n, rest) => wrong n.found rest
    | .error f => f
  match text with
  | [] => .peek .endInValue []
  | c :: rest =>
    if c = 'n' then word "ull" .null rest
    else if c = 't' then word "rue" (.bool true) rest
    else if c = 'f' then word "alse" (.bool false) rest
    else if c = '-' then number true rest
    else if Text.isDigit c then number false text
    else if c = '"' then
      match readString rest with
      | .ok (cs, rest) => wrong (.string cs) rest
      | .error f => f
    else if c = '[' then wrong .sequence text
    else if c = '\x7b' then wrong .map text
    else .peek .expectedValue text

/-! ## Scalars -/

/-- A range of whole numbers with its name. -/
structure IntRange where
  name : String
  low : Int
  high : Int
  deriving DecidableEq, Repr

/-- The whole numbers of 32 bits with a sign. -/
def int32Range : IntRange := ⟨"i32", -0x8000_0000, 0x7FFF_FFFF⟩

/-- The whole numbers of 32 bits without a sign. -/
def uint32Range : IntRange := ⟨"u32", 0, 0xFFFF_FFFF⟩

/-- The whole numbers of 64 bits without a sign. -/
def uint64Range : IntRange := ⟨"u64", 0, 0xFFFF_FFFF_FFFF_FFFF⟩

/-- A number as a member of a range. -/
def IntRange.member (range : IntRange) (n : Number) : Except Problem Int :=
  let whole (i : Int) : Except Problem Int :=
    if range.low ≤ i ∧ i ≤ range.high then .ok i else .error (.invalidValue i range.name)
  match n with
  | .natural n => whole n
  | .negative n => whole (-n)
  | .real text => .error (.invalidType (.real text) range.name)

/-- A number that was read, as a member of a range; a problem is noted after it. -/
def IntRange.settle (range : IntRange) (read : Except Failure (Number × List Char)) :
    Except Failure (Int × List Char) := do
  let (n, rest) ← read
  match range.member n with
  | .ok i => .ok (i, rest)
  | .error problem => .error (.here problem rest)

/-- Reads a whole number of a range. -/
def readInteger (range : IntRange) : Reader Int := fun text =>
  match skipBlank text with
  | [] => .error (.peek .endInValue [])
  | c :: rest =>
    if c = '-' then range.settle (readNumber true rest)
    else if Text.isDigit c then range.settle (readNumber false (c :: rest))
    else .error (unwanted range.name (c :: rest))

/-- Reads a string. -/
def readText : Reader (List Char) := fun text =>
  match skipBlank text with
  | '"' :: rest => readString rest
  | rest => .error (unwanted "a string" rest)

/-- Reads `null`. -/
def readNull : Reader Unit := fun text =>
  match skipBlank text with
  | 'n' :: rest => readWord "ull".toList rest
  | rest => .error (unwanted "unit" rest)

/-- Reads `null` as nothing and any other value as the given reader does. -/
def readOptional {α : Type} (read : Reader α) : Reader (Option α) := fun text =>
  match skipBlank text with
  | 'n' :: rest => do
    let ((), rest) ← readWord "ull".toList rest
    .ok (none, rest)
  | rest => do
    let (a, rest) ← read rest
    .ok (some a, rest)

/-! ## Brackets -/

/-- Why the inside of a bracket was left: a failure, or a problem that gets its place once the
bracket's end has been looked for from the given rest. -/
inductive Halt where
  | placed (failure : Failure)
  | unplaced (problem : Problem) (rest : List Char)
  deriving DecidableEq, Repr

/-- Something from inside a bracket. -/
abbrev Inside (α : Type) := Except Halt (α × List Char)

/-- A reading inside a bracket. -/
def placing {α : Type} (read : Except Failure (α × List Char)) : Inside α :=
  read.mapError .placed

/-- Looks for the end of an object: the failure, if it is not there, and the rest. -/
def endObject (text : List Char) : Option Failure × List Char :=
  match skipBlank text with
  | [] => (some (.peek .endInObject []), [])
  | c :: rest =>
    if c = '\x7d' then (none, rest)
    else if c = ',' then (some (.peek .trailingComma (c :: rest)), c :: rest)
    else (some (.peek .trailingCharacters (c :: rest)), c :: rest)

/-- Looks for the end of a list: the failure, if it is not there, and the rest. -/
def endList (text : List Char) : Option Failure × List Char :=
  match skipBlank text with
  | [] => (some (.peek .endInList []), [])
  | c :: rest =>
    if c = ']' then (none, rest)
    else if c = ',' then
      let rest := skipBlank rest
      match rest with
      | ']' :: _ => (some (.peek .trailingComma rest), rest)
      | _ => (some (.peek .trailingCharacters rest), rest)
    else (some (.peek .trailingCharacters (c :: rest)), c :: rest)

/-- Leaves a bracket: what went wrong inside comes before what is wrong with its end. -/
def leave {α : Type} (close : List Char → Option Failure × List Char) (inside : Inside α) :
    Except Failure (α × List Char) :=
  match inside with
  | .error (.placed failure) => .error failure
  | .error (.unplaced problem rest) => .error (.here problem (close rest).2)
  | .ok (a, rest) =>
    match close rest with
    | (some failure, _) => .error failure
    | (none, rest) => .ok (a, rest)

/-- Reads the next key of an object, or nothing where the object ends. -/
def readKey (first : Bool) (text : List Char) :
    Except Failure (Option (List Char) × List Char) :=
  let key (rest : List Char) : Except Failure (Option (List Char) × List Char) := do
    let (cs, rest) ← readString rest
    .ok (some cs, rest)
  match skipBlank text with
  | [] => .error (.peek .endInObject [])
  | c :: rest =>
    if c = '\x7d' then .ok (none, c :: rest)
    else if c = ',' ∧ !first then
      match skipBlank rest with
      | [] => .error (.peek .endInValue [])
      | d :: more =>
        if d = '"' then key more
        else if d = '\x7d' then .error (.peek .trailingComma (d :: more))
        else .error (.peek .keyMustBeString (d :: more))
    else if !first then .error (.peek .expectedMemberOrEnd (c :: rest))
    else if c = '"' then key rest
    else .error (.peek .keyMustBeString (c :: rest))

/-- Passes over the colon after a key. -/
def readColon (text : List Char) : Except Failure (List Char) :=
  match skipBlank text with
  | [] => .error (.peek .endInObject [])
  | c :: rest => if c = ':' then .ok rest else .error (.peek .expectedColon (c :: rest))

/-- Reads what follows a key: the colon and the value. -/
def readAfterKey {α : Type} (read : Reader α) : Reader α := fun text => do
  let rest ← readColon text
  read rest

/-- Passes over a value of any shape. -/
def readAnything {α : Type} (a : α) : Reader α := fun text => do
  let rest ← skipValue text
  .ok (a, rest)

/-- Reads members until the object ends, at most `count` of them. What follows a key is read by
`member`, which adds to what was gathered before. -/
def readMembers {δ : Type} (member : δ → List Char → List Char → Inside δ) :
    (count : Nat) → (first : Bool) → δ → List Char → Except Halt (δ × List Char)
  | 0, _, _, text => .error (.placed (.here .endInObject text))
  | count + 1, first, draft, text => do
    let (key, rest) ← placing (readKey first text)
    match key with
    | none => .ok (draft, rest)
    | some cs =>
      let (draft, rest) ← member draft cs rest
      readMembers member count false draft rest

/-- Reads all members of an object after its opening bracket. Each takes a character at least, so
the bound is never reached. -/
def readAllMembers {δ : Type} (member : δ → List Char → List Char → Inside δ) (draft : δ)
    (text : List Char) : Inside δ :=
  readMembers member (text.length + 1) true draft text

/-- Goes to the next element of a list; tells whether there is one. -/
def toElement (first : Bool) (text : List Char) : Except Failure (Bool × List Char) :=
  match skipBlank text with
  | [] => .error (.peek .endInList [])
  | c :: rest =>
    if c = ']' then .ok (false, c :: rest)
    else if c = ',' ∧ !first then
      match skipBlank rest with
      | [] => .error (.peek .endInValue [])
      | d :: more =>
        if d = ']' then .error (.peek .trailingComma (d :: more)) else .ok (true, d :: more)
    else if !first then .error (.peek .expectedElementOrEnd (c :: rest))
    else .ok (true, c :: rest)

/-- Reads the next element of a list that has to have it: `count` is the number of elements
before it, and `expected` says what a list that ends here should have been. -/
def readElement {α : Type} (count : Nat) (expected : String) (read : Reader α)
    (text : List Char) : Except Halt (α × List Char) := do
  let (present, rest) ← placing (toElement (count = 0) text)
  if present then placing (read rest)
  else .error (.unplaced (.invalidLength count expected) rest)

/-- Reads a value that is a list or an object. -/
def readBracketed {α : Type} (expected : String) (list object : List Char → Inside α) :
    Reader α := fun text =>
  match skipBlank text with
  | [] => .error (.peek .endInValue [])
  | c :: rest =>
    if c = '[' then leave endList (list rest)
    else if c = '\x7b' then leave endObject (object rest)
    else .error (unwanted expected (c :: rest))

/-! ## Whole texts -/

/-- Reads a whole text: after the value only blanks may come. -/
def readWhole {α : Type} (read : Reader α) (text : List Char) : Except Failure α := do
  let (a, rest) ← read text
  match skipBlank rest with
  | [] => .ok a
  | rest => .error (.peek .trailingCharacters rest)

end Duet.Json
