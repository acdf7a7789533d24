import Duet.Tool.Files
import Duet.Tool.Program

/-!
# The world around the tool

A host is a description of everything the tool's requests depend on: the two standard streams,
which may be full, the files, what the system has against creating them or writing to them,
whether the log and each run would be refused their threads, and how long a run takes. Carrying
out a program on a host gives how it ended and the host afterwards.

**A program that is carried out always comes to an end** (`Host.carryOut`): it ends with its own
exit, or with a crash when something cannot be printed that has to be. A crash on the way out of a
crash kills the process, which leaves no exit code.
-/

namespace Duet.Tool

/-- A standard stream: whether it refuses everything, and what it took, the last first. -/
structure Stream where
  isFull : Bool := false
  taken : List (List UInt8) := []
  deriving DecidableEq, Repr

namespace Stream

/-- Everything the stream took, in order. -/
def bytes (s : Stream) : List UInt8 :=
  s.taken.reverse.flatten

/-- Takes bytes that it was already decided to take. -/
def add (s : Stream) (data : List UInt8) : Stream :=
  { s with taken := data :: s.taken }

/-- Takes bytes, unless the stream is full. -/
def write? (s : Stream) (data : List UInt8) : Option Stream :=
  if s.isFull then none else some (s.add data)

end Stream

/-- How a process ended. -/
inductive Ending where
  | exited (code : UInt8)
  | killed
  deriving DecidableEq, Repr

/-- Everything the tool's requests depend on. -/
structure Host where
  stdout : Stream := {}
  stderr : Stream := {}
  files : Files := {}
  /-- What was opened as the log; without it, the log goes to the standard error. -/
  log : Option Target := none
  /-- Why the system lets nothing be created at a path, whatever is there. -/
  createRefusal : List Char → Option SystemError := fun _ => none
  /-- Why the system lets nothing be written to a file. -/
  writeRefusal : Place → Option SystemError := fun _ => none
  /-- How many runs were performed. -/
  performed : Nat := 0
  /-- The refusal of a thread for writing the log to a file. -/
  logRefusal : Option SystemError := none
  /-- What the system makes of each run, counted from zero. -/
  conditions : Nat → Conditions := fun _ => {}
  /-- The time in front of a log line. -/
  stamp : String := ""

namespace Host

/-- The bytes of a text. -/
def bytesOf (text : String) : List UInt8 :=
  Text.Utf8.encodeString text

/-- Writes bytes to something that was opened, or tells why that failed. -/
def writeTo (h : Host) (target : Target) (data : List UInt8) : Except SystemError Host :=
  match target with
  | .file place =>
    match h.writeRefusal place with
    | some e => .error e
    | none => .ok { h with files := h.files.append place data }
  | .device .full => .error .noSpace
  | .device .stdout =>
    match h.stdout.write? data with
    | some stdout => .ok { h with stdout }
    | none => .error .noSpace
  | .device .stderr =>
    match h.stderr.write? data with
    | some stderr => .ok { h with stderr }
    | none => .error .noSpace
  | .device _ => .ok h

/-- Creates a file, or tells why that failed. -/
def create (h : Host) (path : List Char) : Except SystemError (Host × Target) :=
  match h.createRefusal path with
  | some e => .error e
  | none => (h.files.create path).map fun (files, target) => ({ h with files }, target)

/-- Saves a text to a file. -/
def save (h : Host) (path : List Char) (text : String) : Host × Saved :=
  match h.create path with
  | .error e => (h, .notCreated e)
  | .ok (h, target) =>
    match h.writeTo target (bytesOf text) with
    | .ok h => (h, .done)
    | .error e => (h, .notWritten e)

/-- The run with the given number, if it greets on the standard output. -/
def roundAt (h : Host) (launcher : Launcher) (index : Nat) : Round :=
  let script : Script := if h.stdout.isFull then .refusing .noSpace else {}
  Round.perform { roster := { current := launcher }, script } (h.conditions index)

/-- Performs a run that greets on the standard output. -/
def performRound (h : Host) (launcher : Launcher) : Host × Except Panic Account :=
  let round := h.roundAt launcher h.performed
  ({ h with stdout := h.stdout.add round.output, performed := h.performed + 1 }, round.result)

/-- Writes a line to the log. A log file that refuses it is let be; the standard error is not. -/
def writeLog (h : Host) (line : String) : Option Host :=
  let data := bytesOf (h.stamp ++ " " ++ line)
  match h.log with
  | some target =>
    match h.writeTo target data with
    | .ok h => some h
    | .error _ => some h
  | none => (h.stderr.write? data).map fun stderr => { h with stderr }

/-- How a process ends in a crash that is followed by lines for the log, which fail as well. -/
def crashed (onCrash : List String) : Ending :=
  if onCrash.isEmpty then .exited crashCode else .killed

/-- Carries out a program. -/
def carryOut : Program → Host → Ending × Host
  | .exit code, h => (.exited code, h)
  | .print text next, h =>
    match h.stdout.write? (bytesOf text) with
    | some stdout => carryOut next { h with stdout }
    | none => carryOut next h
  | .complain text next, h =>
    match h.stderr.write? (bytesOf text) with
    | some stderr => carryOut next { h with stderr }
    | none => carryOut next h
  | .report text next, h =>
    match h.stderr.write? (bytesOf text) with
    | some stderr => carryOut next { h with stderr }
    | none => (crashed [], h)
  | .openLog path next, h =>
    match h.create path with
    | .ok (h, target) =>
      if h.logRefusal.isSome then (crashed [], h)
      else carryOut (next none) { h with log := some target }
    | .error e => carryOut (next (some e)) h
  | .log line onCrash next, h =>
    match h.writeLog line with
    | some h => carryOut next h
    | none => (crashed onCrash, h)
  | .round launcher next, h =>
    match h.performRound launcher with
    | (h, .ok account) => carryOut (next account) h
    | (h, .error _) => (crashed [], h)
  | .save path text next, h =>
    let (h, saved) := h.save path text
    carryOut (next saved) h

/-! ## The stack of a thread -/

/-- The bytes that the system gives out at once at most. -/
def mostMemory : Nat := 0x8_0000_0000

/-- The refusal of every thread when a stack is asked for that the system cannot give. A request
that is no number is not one. -/
def stackRefusal? (env : CommandLine.Scan.Environment) : Option SystemError :=
  match (Program.textOf? env "RUST_MIN_STACK").map (Text.readUnsigned 0xFFFF_FFFF_FFFF_FFFF) with
  | some (.ok size) => if mostMemory ≤ size then some .noThread else none
  | _ => none

end Host

end Duet.Tool
