import Duet.Fault
import Duet.Log.Event

/-!
# The flags of the command line

A flag has a long name and may have a one-letter name, a value, a variable of the environment
that stands in for the value, and a default. The tables here say what each flag has; the scanner
and the help texts are written in terms of them.
-/

namespace Duet.CommandLine

/-- A flag of the command line. -/
inductive Flag where
  | help
  | version
  | log
  | logFile
  | rounds
  | summary
  | summaryFile
  | fault
  deriving DecidableEq, Repr

namespace Flag

/-- The name after two hyphens. -/
def long : Flag → String
  | .help => "help"
  | .version => "version"
  | .log => "log"
  | .logFile => "log-file"
  | .rounds => "repeat"
  | .summary => "summary"
  | .summaryFile => "summary-json"
  | .fault => "inject-fault"

/-- The letter after one hyphen. -/
def short? : Flag → Option Char
  | .help => some 'h'
  | .version => some 'V'
  | .log => some 'l'
  | _ => none

/-- What the value is called, for a flag that takes one. -/
def valueName? : Flag → Option String
  | .log => some "LEVEL"
  | .logFile => some "FILE"
  | .rounds => some "N"
  | .summaryFile => some "FILE"
  | .fault => some "STEP"
  | _ => none

/-- Whether the flag takes a value. -/
def takesValue (f : Flag) : Bool :=
  f.valueName?.isSome

/-- The variable that is read when the flag is absent. -/
def envName? : Flag → Option String
  | .log => some "THREADED_HELLO_LOG"
  | .logFile => some "THREADED_HELLO_LOG_FILE"
  | _ => none

/-- The value in effect when nothing else gives one. -/
def default? : Flag → Option String
  | .rounds => some "1"
  | _ => none

/-- Whether the flag is kept out of help texts and usage lines. -/
def isHidden : Flag → Bool
  | .fault => true
  | _ => false

/-- What the flag is for. -/
def about : Flag → String
  | .help => "Print help information"
  | .version => "Print version information"
  | .log => "The verbosity level of log output"
  | .logFile => "Log to a file instead of the terminal"
  | .rounds => "Run this many times in a row. Stops early at the first run that does not succeed"
  | .summary => "Print a summary of the last run to stderr before exiting"
  | .summaryFile => "Write the summary of the last run as JSON to this file"
  | .fault => "Make the given step of every run fail (spawn|join)"

/-- The flag as messages name it: the long name and what its value is called. -/
def label (f : Flag) : String :=
  "--" ++ f.long ++ (f.valueName?.map fun name => " <" ++ name ++ ">").getD ""

/-! ## Which flags are known where -/

/-- The flags about logging. -/
def logging : List Flag := [.help, .log, .logFile]

/-- The flags about runs. -/
def running : List Flag := [.help, .rounds, .summary, .summaryFile, .fault]

/-- The flags of the tool. -/
def all : List Flag :=
  [.help, .version, .log, .logFile, .rounds, .summary, .summaryFile, .fault]

/-- The flags in the order of the help texts. -/
def listed : List Flag :=
  [.help, .log, .logFile, .rounds, .summary, .summaryFile, .version]

/-! ## Values -/

/-- The most rounds that can be asked for. -/
def mostRounds : Nat := 0xFFFF_FFFF_FFFF_FFFF

/-- Why a value is not one for the flag. -/
def refusal? (f : Flag) (value : List Char) : Option String :=
  match f with
  | .log => if (Log.Level.read? value).isSome then none else some Log.Level.refusal
  | .rounds =>
    match Text.readPositive mostRounds value with
    | .ok _ => none
    | .error e => some e.message
  | .fault =>
    match Fault.read value with
    | .ok _ => none
    | .error reason => some reason
  | _ => none

end Flag

end Duet.CommandLine
