import Duet.CommandLine.Help
import Duet.CommandLine.Settings
import Duet.Log.Filter
import Duet.Round
import Duet.Summary.Writer
import Duet.Trouble

/-!
# The tool

The tool reads its command line, opens its log, performs runs until one fails or enough have
succeeded, reports on the last, and exits with the number of its status. Failures of the tool's
own have an exit code of their own.

It is written as a program of requests to the world around it. A request carries how to go on
with the answer, so the program decides everything and the world only answers; what the world is,
a description of it or the real one, is left to whoever carries the requests out.

**A run that fails ends the rounds** (`Program.rounds`), and **no request follows an exit**.
-/

namespace Duet.Tool

open CommandLine

/-- What became of a text that was to be saved to a file. -/
inductive Saved where
  | done
  | notCreated (error : SystemError)
  | notWritten (error : SystemError)
  deriving DecidableEq, Repr

/-- A program of requests. -/
inductive Program where
  /-- Ends with an exit code. -/
  | exit (code : UInt8)
  /-- Prints to the standard output; a failure is of no consequence. -/
  | print (text : String) (next : Program)
  /-- Prints to the standard error; a failure is of no consequence. -/
  | complain (text : String) (next : Program)
  /-- Prints to the standard error; a failure is a crash. -/
  | report (text : String) (next : Program)
  /-- Sends the log to a file from here on, which takes a thread of its own; it is a crash not to
  get one. -/
  | openLog (path : List Char) (next : Option SystemError → Program)
  /-- Writes a line to the log, with the time in front; a failure is a crash. `onCrash` are lines
  that are logged on the way out of it. -/
  | log (line : String) (onCrash : List String) (next : Program)
  /-- Performs a run that greets on the standard output. -/
  | round (launcher : Launcher) (next : Account → Program)
  /-- Writes a text to a file that is created for it. -/
  | save (path : List Char) (text : String) (next : Saved → Program)

/-- The exit code of a crash. -/
def crashCode : UInt8 := 101

/-- The exit code of a failure of the tool itself. -/
def toolFailure : UInt8 := 3

/-- The exit code of a command line that cannot be used. -/
def usageFailure : UInt8 := 2

namespace Program

/-! ## Reports -/

/-- Prints lines to the standard error. -/
def reportAll (lines : List String) (next : Program) : Program :=
  lines.foldr .report next

/-- Reports a trouble and ends. -/
def fail (coloured : Bool) (trouble : Trouble) : Program :=
  reportAll (trouble.report coloured) (.exit toolFailure)

/-- Gives up with a message. -/
def crash (message : String) : Program :=
  .complain (message ++ "\n") (.exit crashCode)

/-- The line of an event, if the filter lets it through. -/
def lineOf? (filter : Log.Filter) (insideRun : Bool) (event : Log.Event) : Option String :=
  (filter.show? insideRun event).map (·.line Speaker.callingThread)

/-- Logs an event if the filter lets it through. -/
def logEvent (filter : Log.Filter) (insideRun : Bool) (onCrash : List String)
    (event : Log.Event) (next : Program) : Program :=
  match lineOf? filter insideRun event with
  | some line => .log line onCrash next
  | none => next

/-- Logs the events of a run. A crash while the handle is held lets go of it. -/
def logRun (filter : Log.Filter) (account : Account) (next : Program) : Program :=
  let onCrash := account.onRelease.filterMap (lineOf? filter true)
  account.held.foldr (logEvent filter true onCrash)
    (account.later.foldr (logEvent filter true []) next)

/-- Logs a message of the tool's own. -/
def logCommand (filter : Log.Filter) (message : String) (next : Program) : Program :=
  logEvent filter false [] ⟨.info, .command, message⟩ next

/-! ## Rounds -/

/-- Ends the rounds and goes on with the last summary. -/
def stop (filter : Log.Filter) (count : Nat) (summary : Summary) (next : Summary → Program) :
    Program :=
  logCommand filter
    ("stopping after " ++ Text.natText count ++ " run(s) with status " ++ summary.status.display)
    (next summary)

/-- Performs a run that is the `count`-th, and up to `more` after it as long as they succeed. -/
def rounds (filter : Log.Filter) (launcher : Launcher) (next : Summary → Program) (count : Nat) :
    (more : Nat) → Program
  | 0 => .round launcher fun account =>
    logRun filter account (stop filter count account.summary next)
  | more + 1 => .round launcher fun account =>
    logRun filter account
      (if account.summary.status.isSuccess then rounds filter launcher next (count + 1) more
      else stop filter count account.summary next)

/-! ## After the rounds -/

/-- The heading of the report on the last run. -/
def heading : String :=
  "\n------------------------------ threaded-hello run report ------------------------------\n"

/-- What is said of a file that cannot be opened or created. -/
def aboutFile (what : String) (path : List Char) : String :=
  what ++ " " ++ String.ofList (Text.quote path)

/-- Saves the summary if asked to, and exits with its status. -/
def saveAndExit (coloured : Bool) (settings : RunSettings) (summary : Summary) : Program :=
  let done := Program.exit summary.status.exitCode
  match settings.summaryFile with
  | none => done
  | some path =>
    .save path summary.pretty fun
      | .done => done
      | .notCreated e =>
        fail coloured ((Trouble.ofSystem e).within (aboutFile "Failed to create summary file" path))
      | .notWritten e =>
        fail coloured ((Trouble.ofSystem e).within "Failed to serialize run summary")

/-- Reports on the last run as asked. -/
def conclude (coloured : Bool) (settings : RunSettings) (summary : Summary) : Program :=
  let rest := saveAndExit coloured settings summary
  if settings.summary then .report (heading ++ summary.display ++ "\n") rest else rest

/-- Performs the runs that are asked for, and reports. -/
def perform (coloured : Bool) (filter : Log.Filter) (settings : RunSettings) : Program :=
  let go launcher :=
    rounds filter launcher (conclude coloured settings) 1 (settings.rounds - 1)
  match settings.fault with
  | none => go .system
  | some fault =>
    logCommand filter ("injecting a " ++ fault.word ++ " fault") (go (.faulty fault))

/-! ## The whole tool -/

/-- The text of a variable, if it is set and well-formed. -/
def textOf? (env : Scan.Environment) (name : String) : Option (List Char) :=
  (env name).bind Text.Utf8.whole?

/-- Whether colours are forced. -/
def isColoured (env : Scan.Environment) : Bool :=
  match textOf? env "CLICOLOR_FORCE" with
  | some value => value ≠ ['0']
  | none => false

/-- Complains about a directive that is not taken, or gives up. -/
def objectTo (piece : List Char) (e : Log.DirectiveError) (next : Program) : Program :=
  if e.isCrash then crash e.message else .report (Log.Filter.complaint piece e) next

/-- Sets up the filter, with complaints about what cannot be read, and performs the runs. -/
def logged (env : Scan.Environment) (settings : Settings) : Program :=
  let (filter, ignored) := Log.Filter.read ((textOf? env "RUST_LOG").getD [])
  let level := settings.log.level.getD Log.Filter.defaultLevel
  ignored.foldr (fun (piece, e) => objectTo piece e)
    (perform (isColoured env) (filter.withLevel level) settings.run)

/-- Opens the log and goes on. -/
def start (env : Scan.Environment) (settings : Settings) : Program :=
  match settings.log.file with
  | none => logged env settings
  | some path =>
    .openLog path fun
      | none => logged env settings
      | some e =>
        fail (isColoured env)
          ((Trouble.ofSystem e).within (aboutFile "Failed to open log file" path))

/-- The tool on a command line, in an environment. -/
def tool (env : Scan.Environment) (args : List Argument) : Program :=
  match Settings.read env args with
  | .ok settings => start env settings
  | .error (.request request) => .print (Help.answer env request) (.exit 0)
  | .error (.mistake e) => .complain e.message (.exit usageFailure)
  | .error (.crash message) => crash message

/-- One run without a command line or a log, for its status. -/
def printHello : Program :=
  .round .system fun account => .exit account.summary.status.exitCode

end Program

end Duet.Tool
