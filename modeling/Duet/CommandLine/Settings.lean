import Duet.CommandLine.Scan

/-!
# Settings

What a command line asks for, once it has been found to be in order. Flags that are absent leave
their settings at the defaults.
-/

namespace Duet.CommandLine

/-- How to log: the level, if one is asked for, and the file to log to. -/
structure LogSettings where
  level : Option Log.Level := none
  file : Option (List Char) := none
  deriving DecidableEq, Repr

/-- What to run: how many rounds at most, what to report, and which step to make fail. -/
structure RunSettings where
  rounds : Nat := 1
  summary : Bool := false
  summaryFile : Option (List Char) := none
  fault : Option Fault := none
  deriving DecidableEq, Repr

/-- Everything a command line asks for. -/
structure Settings where
  log : LogSettings := {}
  run : RunSettings := {}
  deriving DecidableEq, Repr

/-- The last value of a flag. -/
def value? (given : List Given) (flag : Flag) : Option (List Char) :=
  (Scan.valuesOf given flag).getLast?

/-- The settings about logging. -/
def LogSettings.ofGiven (given : List Given) : LogSettings where
  level := (value? given .log).bind Log.Level.read?
  file := value? given .logFile

/-- The settings about runs. -/
def RunSettings.ofGiven (given : List Given) : RunSettings where
  rounds := ((value? given .rounds).bind fun text =>
    (Text.readPositive Flag.mostRounds text).toOption).getD 1
  summary := given.any (·.flag = .summary)
  summaryFile := value? given .summaryFile
  fault := (value? given .fault).bind Fault.ofText?

/-- Reads a command line that may have the flags about logging only. -/
def LogSettings.read (env : Scan.Environment) (args : List Argument) : Except Stop LogSettings :=
  (Scan.run Flag.logging env args).map LogSettings.ofGiven

/-- Reads a command line that may have the flags about runs only. -/
def RunSettings.read (env : Scan.Environment) (args : List Argument) : Except Stop RunSettings :=
  (Scan.run Flag.running env args).map RunSettings.ofGiven

/-- Reads the tool's command line. -/
def Settings.read (env : Scan.Environment) (args : List Argument) : Except Stop Settings :=
  (Scan.run Flag.all env args).map fun given =>
    { log := LogSettings.ofGiven given, run := RunSettings.ofGiven given }

end Duet.CommandLine
