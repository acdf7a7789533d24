import Duet.Log.Pattern.Nesting
import Duet.Log.Pattern.Sign

/-!
# Classes in brackets

A class in brackets lists characters, ranges of them, shorthands, classes known by a name, and
further classes in brackets, and can be an intersection or a difference of such lists. All that is
decided here is whether it can be used, how deep it goes, and where it ends.
-/

namespace Duet.Log.Pattern

/-- The classes known by a name. -/
def classNames : List String :=
  ["alnum", "alpha", "ascii", "blank", "cntrl", "digit", "graph", "lower", "print", "punct",
    "space", "upper", "word", "xdigit"]

/-- Reads a class known by a name, after its opening bracket: whether it is negated, and what
follows. -/
def readNamed? (text : List Char) : Option (Bool × List Char) :=
  match text with
  | ':' :: rest =>
    let isNegated : Bool := rest.head? = some '^'
    let inner := if isNegated then rest.tail else rest
    let name := inner.takeWhile (· ≠ ':')
    match inner.dropWhile (· ≠ ':') with
    | ':' :: ']' :: after =>
      if classNames.any (·.toList = name) then some (isNegated, after) else none
    | _ => none
  | _ => none

/-- Reads hyphens at the start of a class, which stand for themselves. -/
def readHyphens (m : Mode) (l : Listing) : (fuel : Nat) → List Char → Option (Listing × List Char)
  | 0, _ => none
  | fuel + 1, text => do
    let text ← m.more? text
    if text.head? ≠ some '-' then some (l, text)
    else if m.allowsListed '-' then readHyphens m (l.push 0) fuel text.tail
    else none

/-- Reads what follows an opening bracket up to the first thing that is not special there: a
negation, hyphens, and a closing bracket that comes first and stands for itself. -/
def readOpening (m : Mode) (text : List Char) : Option (Listing × List Char) := do
  let text ← m.more? text
  let isNegated : Bool := text.head? = some '^'
  let text ← m.more? (if isNegated then text.tail else text)
  if isNegated && !m.isUnicode then none
  else if text.head? = some ']' then
    if m.allowsListed ']' then (m.more? text.tail).map (({} : Listing).push 0, ·) else none
  else readHyphens m {} (text.length + 1) text

/-- Reads one sign inside a class. -/
def readListed (m : Mode) : List Char → Option (Sign × List Char)
  | [] => none
  | '\\' :: rest => readEscaped m rest
  | c :: rest => some (.literal c false, rest)

/-- Whether a sign may stand alone in a class. -/
def mayStandAlone (m : Mode) : Sign → Bool
  | .literal c _ => m.allowsListed c
  | .shorthand isNegated => m.allowsShorthand isNegated
  | .boundary _ => false

/-- Whether two signs are the ends of a range. -/
def areEnds (m : Mode) : Sign → Sign → Bool
  | .literal low _, .literal high _ => low ≤ high && m.allowsListed low && m.allowsListed high
  | _, _ => false

/-- Reads a sign or a range of a class. -/
def readRange (m : Mode) (text : List Char) : Option (List Char) := do
  let (low, rest) ← readListed m text
  let rest ← m.more? rest
  let isRange : Bool := rest.head? = some '-' && m.peek? rest.tail ≠ some ']'
    && m.peek? rest.tail ≠ some '-'
  if isRange then
    let (high, after) ← readListed m (← m.more? rest.tail)
    if areEnds m low high then some after else none
  else if mayStandAlone m low then some rest
  else none

/-- Whether a text starts with an operator between two lists. -/
def startsOperator : List Char → Bool
  | a :: b :: _ => a = b && ['&', '-', '~'].contains a
  | _ => false

/-- Reads the rest of a class up to the last closing bracket, with the classes around it, the
innermost first: its depth and what follows. -/
def readBody (m : Mode) (outer : List Listing) (l : Listing) :
    (fuel : Nat) → List Char → Option (Nat × List Char)
  | 0, _ => none
  | fuel + 1, text => do
    let text ← m.more? text
    match text with
    | '[' :: rest =>
      match readNamed? rest with
      | some (isNegated, after) =>
        if m.allowsNamed isNegated then readBody m outer (l.push 0) fuel after else none
      | none =>
        let (inner, after) ← readOpening m rest
        readBody m (l :: outer) inner fuel after
    | ']' :: rest =>
      match outer with
      | [] => some (l.depth + 1, rest)
      | parent :: outer => readBody m outer (parent.push (l.depth + 1)) fuel rest
    | _ =>
      if startsOperator text then readBody m outer l.operate fuel (text.drop 2)
      else readBody m outer (l.push 0) fuel (← readRange m text)

/-- Reads a class after its opening bracket: its depth and what follows its closing one. -/
def readBracket (m : Mode) (text : List Char) : Option (Nat × List Char) := do
  let (l, rest) ← readOpening m text
  readBody m [] l (text.length + 1) rest

end Duet.Log.Pattern
