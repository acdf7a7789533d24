import Duet.Log.Stamp
import Duet.Tool.Program
import Std.Time.DateTime.Timestamp

/-!
# The command

Carries out the tool's requests on the real system. Everything is decided by the program of
requests; here streams are written to, files are opened and threads are started.
-/

namespace Duet.Command

open CommandLine Tool

/-- The system's error behind a failed operation. -/
def systemError : IO.Error → SystemError
  | .alreadyExists _ code _ => .numbered (code.toNat : Int)
  | .otherError code _ => .numbered (code.toNat : Int)
  | .resourceBusy code _ => .numbered (code.toNat : Int)
  | .resourceVanished code _ => .numbered (code.toNat : Int)
  | .unsupportedOperation code _ => .numbered (code.toNat : Int)
  | .hardwareFault code _ => .numbered (code.toNat : Int)
  | .unsatisfiedConstraints code _ => .numbered (code.toNat : Int)
  | .illegalOperation code _ => .numbered (code.toNat : Int)
  | .protocolError code _ => .numbered (code.toNat : Int)
  | .timeExpired code _ => .numbered (code.toNat : Int)
  | .interrupted _ code _ => .numbered (code.toNat : Int)
  | .noFileOrDirectory _ code _ => .numbered (code.toNat : Int)
  | .invalidArgument _ code _ => .numbered (code.toNat : Int)
  | .permissionDenied _ code _ => .numbered (code.toNat : Int)
  | .resourceExhausted _ code _ => .numbered (code.toNat : Int)
  | .inappropriateType _ code _ => .numbered (code.toNat : Int)
  | .noSuchThing _ code _ => .numbered (code.toNat : Int)
  | .unexpectedEof => .bare .unexpectedEof
  | .userError text => .custom .other text

/-- The error of an operation that failed. -/
def attempt (act : IO Unit) : IO (Option SystemError) := do
  try
    act
    return none
  catch e => return some (systemError e)

/-- The bytes of a list. -/
def pack (data : List UInt8) : ByteArray :=
  ⟨data.toArray⟩

/-- Makes a call on the standard output. -/
def call (out : IO.FS.Stream) (c : SinkCall) : IO Reply := do
  let act : IO Unit := match c with
    | .writer => pure ()
    | .write data => out.write (pack data)
    | .flush => out.flush
  match ← attempt act with
  | none => return .done c.offered.length
  | some e => return .failed e

/-- Goes through with a greeting on the standard output. -/
partial def greet (out : IO.FS.Stream) (g : Greeter) : IO (Option Panic) := do
  match g.next with
  | none => return g.panic?
  | some c => greet out (g.resume (← call out c))

/-- Waits for a worker that greets on a thread of its own. -/
def work (out : IO.FS.Stream) (worker : Worker) : IO (Option Panic) := do
  let entry := if worker.runsEntry then greet out (.start .worker) else pure none
  let task ← IO.asTask entry .dedicated
  match ← IO.wait task with
  | .ok ending => return worker.ending ending
  | .error e => return some (.text (toString e))

/-- Performs a run on the standard output. -/
def performRound (launcher : Launcher) : IO Account := do
  let out ← IO.getStdout
  let begun ← IO.monoNanosNow
  let _ ← greet out (.start .caller)
  let launched := launcher.spawn .worker none
  let ending ← match launched.toOption.bind (·.inner) with
    | some worker => work out worker
    | none => pure none
  let ended ← IO.monoNanosNow
  return .ofOutcome launched ending ((Duration.ofParts? 0 (ended - begun)).getD .zero)

/-- Writes a line to the log, with the time in front. -/
def writeLog (log : Option IO.FS.Handle) (line : String) : IO (Option SystemError) := do
  let now ← Std.Time.Timestamp.now
  let text := Log.stamp now.toNanosecondsSinceUnixEpoch.val.toNat ++ " " ++ line
  match log with
  | some file =>
    let _ ← attempt (file.putStr text *> file.flush)
    return none
  | none => attempt (do (← IO.getStderr).putStr text)

/-- Creates a file for writing. -/
def create (path : List Char) : IO (Except SystemError IO.FS.Handle) := do
  try
    return .ok (← IO.FS.Handle.mk (String.ofList path) .write)
  catch e => return .error (systemError e)

/-- Saves a text to a file. -/
def save (path : List Char) (text : String) : IO Saved := do
  match ← create path with
  | .error e => return .notCreated e
  | .ok file =>
    match ← attempt (file.putStr text *> file.flush) with
    | none => return .done
    | some e => return .notWritten e

/-- Carries out a program, with the log going to a file if one is open. -/
def carryOut (log : Option IO.FS.Handle) : Program → IO UInt32
  | .exit code => return code.toUInt32
  | .print text next => do
    let _ ← attempt (do (← IO.getStdout).putStr text)
    carryOut log next
  | .complain text next => do
    let _ ← attempt (do (← IO.getStderr).putStr text)
    carryOut log next
  | .report text next => do
    match ← attempt (do (← IO.getStderr).putStr text) with
    | none => carryOut log next
    | some _ => return crashCode.toUInt32
  | .openLog path next => do
    match ← create path with
    | .ok file => carryOut (some file) (next none)
    | .error e => carryOut log (next (some e))
  | .log line _ next => do
    match ← writeLog log line with
    | none => carryOut log next
    | some _ => return crashCode.toUInt32
  | .round launcher next => do
    let account ← performRound launcher
    carryOut log (next account)
  | .save path text next => do
    let saved ← save path text
    carryOut log (next saved)

/-- The variables that the tool looks at. -/
def watched : List String :=
  ["THREADED_HELLO_LOG", "THREADED_HELLO_LOG_FILE", "RUST_LOG", "CLICOLOR_FORCE"]

/-- The environment of the process. -/
def environment : IO Scan.Environment := do
  let values ← watched.mapM fun name => do
    return (name, ← IO.getEnv name)
  return fun name => ((values.lookup name).join).map fun text => Argument.ofText text.toList

end Duet.Command

/-- Runs the tool on the arguments of the process. -/
def main (args : List String) : IO UInt32 := do
  let env ← Duet.Command.environment
  let args := args.map fun arg => Duet.CommandLine.Argument.ofText arg.toList
  Duet.Command.carryOut none (Duet.Tool.Program.tool env args)
