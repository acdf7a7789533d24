import Duet.Json.Number

/-!
# Passing over a value

A member nobody asked for is passed over whatever its value is and however deep it goes. The
walk keeps the open brackets on a stack of its own and takes one piece of the text at a time.

**A value is passed over when the stack is empty again.** Strings are only checked for their
outer form, and numbers for their spelling.
-/

namespace Duet.Json

/-- An open bracket. -/
inductive Bracket where
  | list
  | object
  deriving DecidableEq, Repr

/-- The failure of a text that ends inside a bracket. -/
def Bracket.unfinished : Bracket → Problem
  | .list => .endInList
  | .object => .endInObject

/-- The failure of a text that goes on in a wrong way after an element or member. -/
def Bracket.unseparated : Bracket → Problem
  | .list => .expectedElementOrEnd
  | .object => .expectedMemberOrEnd

/-- The character that closes a bracket. -/
def Bracket.closer : Bracket → Char
  | .list => ']'
  | .object => '\x7d'

/-- Passes over a key and the colon after it. -/
def skipKey (text : List Char) : Except Failure (List Char) :=
  match skipBlank text with
  | [] => .error (.peek .endInObject [])
  | '"' :: rest => do
    let rest ← skipString rest
    match skipBlank rest with
    | ':' :: rest => .ok rest
    | [] => .error (.peek .endInObject [])
    | rest => .error (.peek .expectedColon rest)
  | rest => .error (.peek .keyMustBeString rest)

/-- Where the walk stands, with the brackets that are open. -/
inductive Walk where
  /-- A value has to come. -/
  | value (open_ : List Bracket)
  /-- A bracket has just been opened. -/
  | opened (top : Bracket) (below : List Bracket)
  /-- A value has just ended. -/
  | ended (open_ : List Bracket)
  deriving DecidableEq, Repr

/-- Passes over a value without parts, or opens a bracket. -/
def skipSimple (stack : List Bracket) (text : List Char) : Except Failure (Walk × List Char) :=
  match text with
  | [] => .error (.peek .endInValue [])
  | c :: rest =>
    if c = 'n' then do let ((), r) ← readWord "ull".toList rest; .ok (.ended stack, r)
    else if c = 't' then do let ((), r) ← readWord "rue".toList rest; .ok (.ended stack, r)
    else if c = 'f' then do let ((), r) ← readWord "alse".toList rest; .ok (.ended stack, r)
    else if c = '-' then do let r ← skipNumber rest; .ok (.ended stack, r)
    else if Text.isDigit c then do let r ← skipNumber text; .ok (.ended stack, r)
    else if c = '"' then do let r ← skipString rest; .ok (.ended stack, r)
    else if c = '[' then .ok (.opened .list stack, rest)
    else if c = '\x7b' then .ok (.opened .object stack, rest)
    else .error (.peek .expectedValue text)

/-- Goes to the next value inside a bracket. -/
def skipToValue (top : Bracket) (below : List Bracket) (text : List Char) :
    Except Failure (Walk × List Char) :=
  match top with
  | .list => .ok (.value (top :: below), text)
  | .object => do
    let r ← skipKey text
    .ok (.value (top :: below), r)

/-- Goes on after a bracket was opened. -/
def skipOpened (top : Bracket) (below : List Bracket) (text : List Char) :
    Except Failure (Walk × List Char) :=
  match text with
  | [] => .error (.peek top.unfinished [])
  | c :: rest =>
    if c = top.closer then .ok (.ended below, rest) else skipToValue top below text

/-- Goes on after a value inside a bracket. -/
def skipEnded (top : Bracket) (below : List Bracket) (text : List Char) :
    Except Failure (Walk × List Char) :=
  match text with
  | [] => .error (.peek top.unfinished [])
  | c :: rest =>
    if c = top.closer then .ok (.ended below, rest)
    else if c = ',' then skipToValue top below rest
    else .error (.peek top.unseparated text)

/-- Walks on for at most `pieces` pieces. -/
def skipFrom : (pieces : Nat) → Walk → List Char → Except Failure (List Char)
  | _, .ended [], text => .ok text
  | 0, _, text => .error (.here .endInValue text)
  | pieces + 1, .value stack, text => do
    let (next, rest) ← skipSimple stack (skipBlank text)
    skipFrom pieces next rest
  | pieces + 1, .opened top below, text => do
    let (next, rest) ← skipOpened top below (skipBlank text)
    skipFrom pieces next rest
  | pieces + 1, .ended (top :: below), text => do
    let (next, rest) ← skipEnded top below (skipBlank text)
    skipFrom pieces next rest

/-- Passes over one value. Of two pieces in a row one takes a character, so the bound is never
reached. -/
def skipValue (text : List Char) : Except Failure (List Char) :=
  skipFrom (2 * text.length + 2) (.value []) text

end Duet.Json
