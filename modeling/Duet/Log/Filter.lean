import Duet.Log.Event
import Duet.Log.Pattern
import Duet.Text.Utf8

/-!
# Choosing what to log

A filter is a list of directives. A directive has a level and may be restricted to targets with
a given beginning, to what happens inside a span of a given name, and to events with given
fields. Directives without a span decide by target, the most specific first; a directive with a
span lets everything through, up to its level, while a matching span is entered.

**Of two directives with the same target and fields the later one counts**, which is how the
level given on the command line replaces one without a target (`Filter.add`).

What this does not establish: values of fields are read and never compared, because the span of
a run has no fields.
-/

namespace Duet.Log

/-! ## Directives -/

/-- A field that has to be there, and whether a value was asked for. -/
structure FieldMatch where
  name : List Char
  hasValue : Bool
  deriving DecidableEq, Repr

/-- One directive of a filter. -/
structure Directive where
  target : Option (List Char) := none
  span : Option (List Char) := none
  fields : List FieldMatch := []
  level : Level := .everything
  deriving DecidableEq, Repr

/-- Why a directive is not taken. -/
inductive DirectiveError where
  | malformed
  | level
  | pattern (error : PatternError)
  /-- A piece would be cut inside a character, which nothing recovers from. -/
  | cutsCharacter
  deriving DecidableEq, Repr

/-- The words for a directive that is not taken. -/
def DirectiveError.message : DirectiveError → String
  | .malformed => "invalid filter directive"
  | .level => Level.refusal
  | .pattern e => "invalid field filter: " ++ e.message
  | .cutsCharacter => "byte index is not a char boundary"

/-- Whether nothing recovers from an error. -/
def DirectiveError.isCrash (e : DirectiveError) : Bool :=
  e = .cutsCharacter

/-- A directive while it is read. The delimiters are looked for in the text without the blanks
around it; the pieces are cut at the same places, counted in bytes, out of the text as it was
written. -/
structure Cursor where
  written : List Char
  /-- What is left to be scanned. -/
  scanned : List Char
  /-- The place of what is left. -/
  place : Nat := 0
  deriving DecidableEq, Repr

namespace Cursor

/-- The start of a directive. -/
def start (text : List Char) : Cursor :=
  { written := text, scanned := Text.trim text }

/-- What comes after the next character. -/
def tail (c : Cursor) : Cursor :=
  { c with
    scanned := c.scanned.tail
    place := c.place + ((c.scanned.head?.map Char.utf8Size).getD 0) }

/-- The cursor at the first character that ends a piece, or at the end. -/
def find (c : Cursor) (isEnd : Char → Bool) : Cursor :=
  { c with
    scanned := c.scanned.dropWhile (!isEnd ·)
    place := c.place + Text.Utf8.size (c.scanned.takeWhile (!isEnd ·)) }

/-- The piece between two places. -/
def piece (c : Cursor) (stop : Nat) : Except DirectiveError (List Char) :=
  match Text.Utf8.slice? c.place stop c.written with
  | some text => .ok text
  | none => .error .cutsCharacter

/-- Everything from a place to the end, blanks included. -/
def toEnd (c : Cursor) : Except DirectiveError (List Char) :=
  match Text.Utf8.drop? c.place c.written with
  | some text => .ok text
  | none => .error .cutsCharacter

/-- Cuts at the first character that ends a piece: the piece before it, that character and what
follows; nothing if there is no such character. -/
def cut? (c : Cursor) (isEnd : Char → Bool) :
    Except DirectiveError (Option (List Char × Char × Cursor)) := do
  let found := c.find isEnd
  match found.scanned with
  | [] => .ok none
  | delimiter :: _ => .ok (some (← c.piece found.place, delimiter, found.tail))

end Cursor

namespace Directive

/-- Reads the level after an equals sign; nothing there stands for everything. -/
def readLevel (c : Cursor) : Except DirectiveError Level := do
  let text ← c.toEnd
  if text.isEmpty then .ok .everything
  else
    match Level.read? text with
    | some level => .ok level
    | none => .error .level

/-- Reads what follows a closed bracket: nothing, or a level. -/
def readAfterSpan (d : Directive) (c : Cursor) : Except DirectiveError Directive :=
  match c.scanned with
  | [] => .ok d
  | '=' :: _ => do
    let level ← readLevel c.tail
    .ok { d with level }
  | _ => .error .malformed

/-- The field asked for between braces, with the value between the first two equals signs. -/
def readField (text : List Char) : Except DirectiveError FieldMatch :=
  if text.isEmpty then .error .malformed
  else
    let name := text.takeWhile (· ≠ '=')
    match text.dropWhile (· ≠ '=') with
    | [] => .ok ⟨name, false⟩
    | _ :: rest =>
      match Pattern.checkValue (rest.takeWhile (· ≠ '=')) with
      | .ok () => .ok ⟨name, true⟩
      | .error e => .error (.pattern e)

/-- Reads a field after an opened brace, and the bracket behind it. -/
def readFields (d : Directive) (c : Cursor) : Except DirectiveError Directive := do
  match ← c.cut? (· = '\x7d') with
  | none => .error .malformed
  | some (inner, _, rest) =>
    let field ← readField inner
    match rest.scanned with
    | ']' :: _ => readAfterSpan { d with fields := [field] } rest.tail
    | _ => .error .malformed

/-- Reads what follows an opened bracket: a span's name, a field, or both. -/
def readSpan (d : Directive) (c : Cursor) : Except DirectiveError Directive := do
  match ← c.cut? (fun x => x = ']' || x = '\x7b') with
  | none => .error .malformed
  | some (name, delimiter, rest) =>
    if delimiter = ']' then readAfterSpan { d with span := some name } rest
    else readFields { d with span := if name.isEmpty then none else some name } rest

/-- Reads a directive that starts with a level or a target. -/
def readTarget (c : Cursor) : Except DirectiveError Directive := do
  match ← c.cut? (fun x => x = '=' || x = '[') with
  | some (target, delimiter, rest) =>
    if delimiter = '=' then
      let level ← readLevel rest
      .ok { target := some target, level }
    else readSpan { target := some target } rest
  | none =>
    match Level.read? c.written with
    | some level => .ok { level }
    | none => .ok { target := some c.written }

/-- Whether a directive may begin with a character other than a bracket. -/
def mayStart (c : Char) : Bool :=
  c = '-' || c = ':' || c = '_' || Text.isAlphanumeric c

/-- Reads one directive. -/
def read (text : List Char) : Except DirectiveError Directive :=
  let c := Cursor.start text
  match c.scanned with
  | [] => .error .malformed
  | '[' :: _ => readSpan {} c.tail
  | x :: _ => if mayStart x then readTarget c else .error .malformed

/-- Whether a directive is about what happens inside spans. -/
def isDynamic (d : Directive) : Bool :=
  d.span.isSome || !d.fields.isEmpty

/-- Whether a directive can be decided without knowing the spans. -/
def isStatic (d : Directive) : Bool :=
  d.span.isNone && d.fields.all (!·.hasValue)

/-- Whether two directives are about the same things. -/
def sameScope (a b : Directive) : Bool :=
  a.target = b.target && a.span = b.span && a.fields = b.fields

/-- Whether the first directive is tried before the second: a longer target first, then more
fields. -/
def before (a b : Directive) : Bool :=
  let size (d : Directive) : Nat := (d.target.map (·.length + 1)).getD 0
  size b < size a || (size a = size b && b.fields.length < a.fields.length)

/-- Whether a target begins as the directive asks. -/
def matchesTarget (d : Directive) (target : String) : Bool :=
  match d.target with
  | none => true
  | some start => start.isPrefixOf target.toList

/-- The fields an event has. -/
def eventFields : List (List Char) := ["message".toList]

/-- Whether a static directive is about an event. -/
def matchesEvent (d : Directive) (e : Event) : Bool :=
  d.matchesTarget e.origin.target && d.fields.all (eventFields.contains ·.name)

/-- Whether a static directive is about the span of a run. -/
def matchesRunStatically (d : Directive) : Bool :=
  d.matchesTarget runSpanOrigin.target

/-- Whether a directive with a span or fields is about the span of a run, which has no fields. -/
def matchesRun (d : Directive) : Bool :=
  d.matchesTarget runSpanOrigin.target
    && (d.span.map fun name => decide (name = runSpan.toList)).getD true && d.fields.isEmpty

end Directive

/-! ## Filters -/

/-- Directives in the order in which they are tried, and the highest rank that any directive
ever added lets through. -/
structure Filter where
  statics : List Directive := []
  dynamics : List Directive := []
  reach : Nat := 0
  deriving DecidableEq, Repr

namespace Filter

/-- Puts a directive in its place; one with the same scope is replaced. -/
def place (d : Directive) (ds : List Directive) : List Directive :=
  let others := ds.filter (!·.sameScope d)
  others.takeWhile (·.before d) ++ d :: others.dropWhile (·.before d)

/-- Adds a directive. -/
def add (f : Filter) (d : Directive) : Filter :=
  { statics := if d.isStatic then place d f.statics else f.statics
    dynamics := if d.isDynamic then place d f.dynamics else f.dynamics
    reach := max f.reach d.level.rank }

/-- The rank above which nothing is looked at: a field's value is known only late, so asking
for one keeps everything in view. -/
def ceiling (f : Filter) : Nat :=
  if f.dynamics.any (·.fields.any (·.hasValue)) then Level.everything.rank else f.reach

/-- Whether the first directive about something admits its severity. -/
def decides (ds : List Directive) (isAbout : Directive → Bool) (s : Severity) : Bool :=
  match ds.find? isAbout with
  | some d => d.level.admits s
  | none => false

/-- Whether the span of a run is entered at all. -/
def entersRun (f : Filter) : Bool :=
  runSpanSeverity.rank ≤ f.ceiling
    && (f.dynamics.any (·.matchesRun)
      || decides f.statics (·.matchesRunStatically) runSpanSeverity)

/-- The most that is let through because the span of a run is entered. -/
def runCeiling (f : Filter) : Nat :=
  if f.entersRun then
    ((f.dynamics.filter (·.matchesRun)).map (·.level.rank)).foldl max 0
  else 0

/-- Whether an event is let through. -/
def admits (f : Filter) (insideRun : Bool) (e : Event) : Bool :=
  (insideRun && e.severity.rank ≤ f.runCeiling)
    || decides f.statics (·.matchesEvent e) e.severity

/-- What a filter makes of an event. -/
def show? (f : Filter) (insideRun : Bool) (e : Event) : Option Shown :=
  if f.admits insideRun e then some ⟨e, insideRun && f.entersRun⟩ else none

/-- Cuts a text at its commas. -/
def splitCommas (text : List Char) : List (List Char) :=
  text.foldr (fun c pieces =>
    if c = ',' then [] :: pieces
    else
      match pieces with
      | piece :: more => (c :: piece) :: more
      | [] => [[c]]) [[]]

/-- Reads the directives of a text; those that are not taken are returned with the reason. -/
def read (text : List Char) : Filter × List (List Char × DirectiveError) :=
  ((splitCommas text).filter (!·.isEmpty)).foldl (fun (f, ignored) piece =>
    match Directive.read piece with
    | .ok d => (f.add d, ignored)
    | .error e => (f, ignored ++ [(piece, e)])) ({}, [])

/-- What is said about a directive that is ignored. -/
def complaint (piece : List Char) (e : DirectiveError) : String :=
  "ignoring `" ++ String.ofList piece ++ "`: " ++ e.message ++ "\n"

/-- The level at which the tool logs unless told otherwise. -/
def defaultLevel : Level := .upTo .warn

/-- The filter of a list of directives and a level of its own. -/
def withLevel (f : Filter) (level : Level) : Filter :=
  f.add { level }

end Filter

end Duet.Log
