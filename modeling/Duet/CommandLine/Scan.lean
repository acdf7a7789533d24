import Duet.CommandLine.UsageError
import Duet.Text.Similarity
import Duet.Text.Utf8

/-!
# Scanning a command line

Arguments are taken one by one. `--name` and `-x` name flags, several letters may share a hyphen,
and a value follows in the next argument, after an equals sign, or directly after a letter. What
follows `--` is never a flag. Help and version are answered as soon as they are reached.

A value in an argument of its own is set aside until the next flag or the end, and only then
looked at; that decides which of two mistakes is reported. A long name that is not known makes the
scanner look through everything that follows it, and a malformed text there is a crash.

**A flag that is scanned is entered once, with all of its values** (`Scan.enter`).
-/

namespace Duet.CommandLine

/-- An argument as decoded from bytes; `none` marks a malformed sequence. -/
abbrev Argument := List (Option Char)

/-- The argument of a well-formed text. -/
def Argument.ofText (text : List Char) : Argument :=
  text.map some

/-- Something to be answered instead of running. -/
inductive Request where
  | shortHelp
  | longHelp
  | version
  deriving DecidableEq, Repr

/-- Why a scan stops before the end. -/
inductive Stop where
  | request (request : Request)
  | mistake (error : UsageError)
  /-- The scanner itself gives up, with a message. -/
  | crash (message : String)
  deriving DecidableEq, Repr

/-- A flag as given: how many times, and the values. -/
structure Given where
  flag : Flag
  count : Nat
  values : List (List Char)
  deriving DecidableEq, Repr

/-- A scan under way: the flags given so far, and a flag whose value stands in an argument of
its own, with that value if it was reached. -/
structure Scan where
  given : List Given := []
  pending : Option (Flag × Option Argument) := none
  deriving DecidableEq, Repr

namespace Scan

/-! ## Entering flags -/

/-- Enters one more use of a flag. -/
def enter (s : Scan) (flag : Flag) (values : List (List Char)) : Scan :=
  if s.given.any (·.flag = flag) then
    { s with
      given := s.given.map fun g =>
        if g.flag = flag then { g with count := g.count + 1, values := g.values ++ values } else g }
  else { s with given := s.given ++ [⟨flag, 1, values⟩] }

/-- Enters a use of a flag with a value, which has to be well-formed. -/
def enterValue (s : Scan) (flag : Flag) (value : Argument) : Except Stop Scan :=
  match Text.Utf8.whole? value with
  | some text => .ok (s.enter flag [text])
  | none => .error (.mistake .malformedText)

/-- Enters the flag that was set aside. -/
def settle (s : Scan) : Except Stop Scan :=
  match s.pending with
  | none => .ok s
  | some (flag, none) => .ok ({ s with pending := none }.enter flag [])
  | some (flag, some value) => { s with pending := none }.enterValue flag value

/-- The flags that were reached, in order. -/
def reached (s : Scan) : List Flag :=
  let given := s.given.map (·.flag)
  match s.pending with
  | some (flag, _) => if given.contains flag then given else given ++ [flag]
  | none => given

/-! ## Arguments -/

/-- How similar a name has to be for its flag to be suggested. -/
def likeness : Float := 0.8

/-- The flag that an unknown name may have meant. -/
def meant? (known : List Flag) (name : List Char) : Option Flag :=
  (Text.mostSimilar? likeness name (known.map (·.long.toList))).bind fun best =>
    known.find? (·.long.toList = best)

/-- Reports a long name that is not known. -/
def unknownLong (s : Scan) (known : List Flag) (name : Argument) : UsageError :=
  let shown := Text.Utf8.lossy name
  let meant := meant? known shown
  let reached := s.reached
  let used := reached ++ meant.toList.filter (!reached.contains ·)
  .unknown (String.ofList ('-' :: '-' :: shown)) meant (used.filter (!·.isHidden))

/-- What is said of a malformed text after a long name that is not known. -/
def malformedLater : String := "unexpected invalid UTF-8 code point"

/-- Ends the scan at a long name that is not known, given the arguments after it. -/
def stopAtUnknown (s : Scan) (known : List Flag) (later : List Argument) (name : Argument) :
    Stop :=
  if later.all fun arg => (Text.Utf8.whole? arg).isSome then .mistake (s.unknownLong known name)
  else .crash malformedLater

/-- Takes a flag that has no value. -/
def mark (s : Scan) (flag : Flag) (help : Request) : Except Stop Scan := do
  let s ← s.settle
  match flag with
  | .help => .error (.request help)
  | .version => .error (.request .version)
  | _ => .ok (s.enter flag [])

/-- Takes a flag whose value is to follow in the next argument. -/
def await (s : Scan) (flag : Flag) : Except Stop Scan := do
  let s ← s.settle
  .ok { s with pending := some (flag, none) }

/-- Takes a flag with a value in the same argument. -/
def attach (s : Scan) (flag : Flag) (value : Argument) : Except Stop Scan := do
  let s ← s.settle
  s.enterValue flag value

/-- Takes an argument that starts with two hyphens, given the arguments after it. -/
def long (s : Scan) (known : List Flag) (later : List Argument) (text : Argument) :
    Except Stop Scan :=
  let name := text.takeWhile (· ≠ some '=')
  let value? := (text.dropWhile (· ≠ some '=')).tail?
  match known.find? fun flag => Argument.ofText flag.long.toList = name with
  | none => .error (s.stopAtUnknown known later name)
  | some flag =>
    match flag.takesValue, value? with
    | true, none => s.await flag
    | true, some value => s.attach flag value
    | false, none => s.mark flag .longHelp
    | false, some value =>
      let used := (s.given.map (·.flag)).filter (!·.isHidden)
      .error (.mistake (.unneededValue (String.ofList (Text.Utf8.lossy value)) flag used))

/-- Takes the letters after one hyphen. -/
def letters (s : Scan) (known : List Flag) : Argument → Except Stop Scan
  | [] => .ok s
  | none :: rest =>
    let shown := String.ofList ('-' :: Text.Utf8.lossy (none :: rest))
    .error (.mistake (.unknown shown none []))
  | some c :: rest =>
    match known.find? (·.short? = some c) with
    | none => .error (.mistake (.unknown (String.ofList ['-', c]) none []))
    | some flag =>
      if flag.takesValue then
        match rest with
        | [] => s.await flag
        | some '=' :: value => s.attach flag value
        | value => s.attach flag value
      else
        match s.mark flag .shortHelp with
        | .ok s => letters s known rest
        | .error stop => .error stop

/-- Takes an argument that is no flag: the value that is waited for, or a mistake. -/
def plain (s : Scan) (arg : Argument) : Except Stop Scan :=
  match s.pending with
  | some (flag, none) => .ok { s with pending := some (flag, some arg) }
  | _ => .error (.mistake (.unknown (String.ofList (Text.Utf8.lossy arg)) none []))

/-- Takes one argument other than `--`, given the arguments after it. -/
def argument (s : Scan) (known : List Flag) (later : List Argument) :
    Argument → Except Stop Scan
  | some '-' :: some '-' :: text => s.long known later text
  | [some '-'] => s.plain [some '-']
  | some '-' :: text => s.letters known text
  | arg => s.plain arg

/-- Takes all arguments. -/
def arguments (s : Scan) (known : List Flag) : List Argument → Except Stop Scan
  | [] => .ok s
  | arg :: rest =>
    if arg = [some '-', some '-'] then
      match rest with
      | [] => .ok s
      | extra :: _ =>
        let shown := String.ofList (Text.Utf8.lossy extra)
        .error (.mistake (.unknown shown none []))
    else
      match s.argument known rest arg with
      | .ok s => arguments s known rest
      | .error stop => .error stop

/-! ## The environment and the values -/

/-- The environment: what a variable is set to. -/
abbrev Environment := String → Option Argument

/-- Enters the values that the environment has for flags that were not given. -/
def fromEnvironment (env : Environment) (s : Scan) : List Flag → Except Stop Scan
  | [] => .ok s
  | flag :: more =>
    match flag.envName?.bind env with
    | none => fromEnvironment env s more
    | some value =>
      if s.given.any (·.flag = flag) then fromEnvironment env s more
      else
        match s.enterValue flag value with
        | .ok s => fromEnvironment env s more
        | .error stop => .error stop

/-- Checks the values of one flag. -/
def checkValues (flag : Flag) : List (List Char) → Except UsageError Unit
  | [] => .ok ()
  | value :: more =>
    match flag.refusal? value with
    | some reason => .error (.badValue value flag reason)
    | none => checkValues flag more

/-- Checks a flag as given. -/
def check (g : Given) : Except UsageError Unit := do
  if g.flag.takesValue && g.values.isEmpty then .error (.noValue g.flag)
  checkValues g.flag g.values
  if 1 < g.count then .error (.repeated g.flag)

/-- Checks all flags as given, in order. -/
def checkAll : List Given → Except UsageError Unit
  | [] => .ok ()
  | g :: more => do
    check g
    checkAll more

/-- The flag whose value was still waited for when the arguments ended. -/
def awaited? (s : Scan) : Option Flag :=
  match s.pending with
  | some (flag, none) => some flag
  | _ => none

/-- The values of a flag. -/
def valuesOf (given : List Given) (flag : Flag) : List (List Char) :=
  ((given.find? (·.flag = flag)).map (·.values)).getD []

/-- Scans a command line for the known flags, completes it from the environment and checks
everything. -/
def run (known : List Flag) (env : Environment) (args : List Argument) :
    Except Stop (List Given) := do
  let scanned ← arguments {} known args
  let settled ← scanned.settle
  let complete ← fromEnvironment env settled known
  let given := complete.given
  match scanned.awaited? with
  | some flag =>
    if (valuesOf given flag).isEmpty then .error (.mistake (.noValue flag))
  | none => .ok ()
  match checkAll given with
  | .ok () => .ok given
  | .error e => .error (.mistake e)

end Scan

end Duet.CommandLine
