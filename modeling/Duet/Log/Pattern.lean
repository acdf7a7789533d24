import Duet.Log.Pattern.Bracket
import Duet.Log.Pattern.Group
import Duet.Text.Decimal

/-!
# Patterns for values

The value of a field can be asked for as a word for true or false, as a number, or by a pattern, a
regular expression. Nothing is ever matched with a pattern here, since the span of a run has no
fields; what counts is whether it can be used. It has to be well-formed, and it may not ask for
what cannot be decided character by character without tables: classes beyond ASCII, and
boundaries of words outside of ASCII. Nor may it go too deep.

**Every pattern is read from left to right, and the first thing that is wrong with it decides**,
except that boundaries of words are objected to only in a pattern that is otherwise in order.

What this does not establish: how often something is repeated cannot be given as a number, because
a brace would end the field.
-/

namespace Duet.Log

/-- Why a pattern cannot be used. -/
inductive PatternError where
  | unusable
  | wordBoundary
  deriving DecidableEq, Repr

/-- The words for a pattern that cannot be used. -/
def PatternError.message : PatternError → String
  | .unusable => "error building NFA"
  | .wordBoundary =>
    "unsupported regex feature for DFAs: cannot build DFAs for regexes with Unicode word "
      ++ "boundaries; switch to ASCII word boundaries, or heuristically enable Unicode word "
      ++ "boundaries or use a different regex engine"

namespace Pattern

/-! ## Patterns -/

/-- What goes on around a group. -/
structure Surroundings where
  mode : Mode
  branches : Branches
  deriving DecidableEq, Repr

/-- A pattern while it is read. -/
structure Progress where
  mode : Mode := {}
  /-- What was read since the innermost group was opened. -/
  branches : Branches := {}
  /-- Whether the last thing read can be repeated. -/
  isRepeatable : Bool := false
  /-- What goes on around the groups that are open, the innermost first. -/
  outer : List Surroundings := []
  /-- The names of groups so far. -/
  names : List (List Char) := []
  /-- Whether there was a boundary of words outside of ASCII. -/
  hasBoundary : Bool := false
  deriving DecidableEq, Repr

namespace Progress

/-- Goes on after something of a depth that can be repeated. -/
def took (p : Progress) (depth : Nat) : Progress :=
  { p with isRepeatable := true, branches := p.branches.push depth }

/-- Opens a group or changes the mode. -/
def opened (p : Progress) : Opening → Option Progress
  | .change mode => some { p with mode, isRepeatable := false, branches := p.branches.push 0 }
  | .group name mode =>
    if p.names.any (some · = name) then none
    else
      some
        { p with
          mode
          branches := {}
          isRepeatable := false
          outer := ⟨p.mode, p.branches⟩ :: p.outer
          names := name.toList ++ p.names }

/-- Closes the innermost group. -/
def closed (p : Progress) : Option Progress :=
  match p.outer with
  | [] => none
  | around :: outer =>
    let before := { p with mode := around.mode, branches := around.branches, outer }
    some (before.took (p.branches.depth + 1))

/-- Takes a sign. -/
def sign (p : Progress) : Sign → Option Progress
  | .literal c isByte => if p.mode.allowsLiteral c isByte then some (p.took 0) else none
  | .shorthand isNegated => if p.mode.allowsShorthand isNegated then some (p.took 0) else none
  | .boundary ofWord =>
    some { p.took 0 with hasBoundary := p.hasBoundary || (ofWord && p.mode.isUnicode) }

/-- Begins another alternative. -/
def split (p : Progress) : Progress :=
  { p with isRepeatable := false, branches := p.branches.split }

/-- Repeats the last thing. -/
def repeated (p : Progress) : Option Progress :=
  if p.isRepeatable then some { p with branches := p.branches.repeatLast } else none

/-- Reads the next thing of a pattern. -/
def step (p : Progress) : List Char → Option (Progress × List Char)
  | [] => none
  | c :: rest =>
    if c = '(' then do
      let (opening, rest) ← readGroup p.mode rest
      some (← p.opened opening, rest)
    else if c = ')' then p.closed.map (·, rest)
    else if c = '|' then some (p.split, rest)
    else if c = '[' then (readBracket p.mode rest).map fun (depth, rest) => (p.took depth, rest)
    else if ['?', '*', '+'].contains c then
      p.repeated.map (·, if rest.head? = some '?' then rest.tail else rest)
    else if c = '\x7b' then none
    else if c = '\\' then do
      let (s, rest) ← readEscaped p.mode rest
      some (← p.sign s, rest)
    else if c = '.' then if p.mode.isUnicode then some (p.took 0, rest) else none
    else if c = '^' ∨ c = '$' then some (p.took 0, rest)
    else (p.sign (.literal c false)).map (·, rest)

/-- Whether a pattern may end here: with every group closed, and without going too deep. -/
def mayEnd (p : Progress) : Bool :=
  p.outer.isEmpty && p.branches.depth ≤ mostLevels

/-- Reads the rest of a pattern. -/
def finish (p : Progress) : (fuel : Nat) → List Char → Option Progress
  | 0, _ => none
  | fuel + 1, text =>
    match p.mode.skip text with
    | [] => if p.mayEnd then some p else none
    | text => (p.step text).bind fun (p, rest) => p.finish fuel rest

end Progress

/-- Decides whether a pattern can be used. -/
def check (text : List Char) : Except PatternError Unit :=
  match ({} : Progress).finish (text.length + 1) text with
  | none => .error .unusable
  | some p => if p.hasBoundary then .error .wordBoundary else .ok ()

/-! ## Values -/

/-- Whether a text is digits, at least so many. -/
def areDigits (least : Nat) (text : List Char) : Bool :=
  least ≤ text.length && text.all Text.isDigit

/-- A text without the sign in front of it. -/
def unsigned : List Char → List Char
  | '+' :: rest => rest
  | '-' :: rest => rest
  | text => text

/-- Whether a text is a row of digits that may have a point before, in or after it. -/
def isFraction (text : List Char) : Bool :=
  let whole := text.takeWhile (· ≠ '.')
  match text.dropWhile (· ≠ '.') with
  | [] => areDigits 1 whole
  | _ :: part => areDigits 0 whole && areDigits 0 part && 0 < whole.length + part.length

/-- Whether a text is a number, with or without a sign, a point or an exponent. -/
def isNumber (text : List Char) : Bool :=
  let text := unsigned (text.map Char.toLower)
  if ["inf", "infinity", "nan"].any (·.toList = text) then true
  else
    match text.dropWhile (· ≠ 'e') with
    | [] => isFraction text
    | _ :: exponent => isFraction (text.takeWhile (· ≠ 'e')) && areDigits 1 (unsigned exponent)

/-- Decides whether a value can be asked for: as a truth value, a number or by a pattern. -/
def checkValue (text : List Char) : Except PatternError Unit :=
  if ["true", "false"].any (·.toList = text) || isNumber text then .ok () else check text

end Pattern

end Duet.Log
