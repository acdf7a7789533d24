import Duet.Fault
import Duet.Log.Event
import Duet.RunFailure

/-!
# Starting workers and waiting for them

A launcher starts a thread for a speaker or says why it cannot. What it gives out is a handle:
the only way to wait for the thread, and waiting is what every use of it comes down to. A join
reports how the thread ended; letting go of a handle waits as well and reports nothing.

**A join of a handle whose join was made to fail reports that fault, whatever the thread did**
(`Handle.join_of_failsJoin`), and **a handle that was joined is empty, so that letting go of it
waits for nothing** (`Handle.dropEvents_emptied`).
-/

namespace Duet

/-! ## Workers -/

/-- A started thread: its name, whether it runs the entry it was given, and the panic it ends
in after that. -/
structure Worker where
  thread : Option String
  runsEntry : Bool := true
  after : Option Panic := none
  deriving DecidableEq, Repr

/-- How a worker ends, given how its entry ends if it is run. -/
def Worker.ending (w : Worker) (entry : Option Panic) : Option Panic :=
  if w.runsEntry then entry.or w.after else w.after

/-! ## Handles -/

/-- The means to wait for a worker. It is empty once the worker has been waited for. -/
structure Handle where
  who : Speaker
  inner : Option Worker
  failsJoin : Bool := false
  deriving DecidableEq, Repr

namespace Handle

/-- The handle of a started worker. -/
def of (who : Speaker) (worker : Worker) : Handle :=
  { who, inner := some worker }

/-- The handle with a join that is made to fail. -/
def failOnJoin (h : Handle) : Handle :=
  { h with failsJoin := true }

/-- The handle after its worker was taken out to be waited for. -/
def emptied (h : Handle) : Handle :=
  { h with inner := none }

/-- What a join reports about a worker that ended in the given way. -/
def join (h : Handle) (ending : Option Panic) : Except RunFailure Unit :=
  if h.failsJoin then .error (.injectedJoin h.who)
  else
    match h.inner, ending with
    | some _, some panic => .error (.ofPanic h.who panic)
    | _, _ => .ok ()

/-- What is logged when a handle is let go of: nothing if it is empty. -/
def dropEvents (h : Handle) : List Log.Event :=
  match h.inner with
  | some _ => [⟨.debug, .spawner, "joining thread #" ++ h.who.numeral ++ " on drop"⟩]
  | none => []

/-- What is logged when a join has waited. -/
def terminated (h : Handle) : Log.Event :=
  ⟨.trace, .spawner, "thread #" ++ h.who.numeral ++ " terminated"⟩

/-- What is logged by a join, at the end of which the emptied handle is let go of. -/
def joinEvents (h : Handle) : List Log.Event :=
  h.terminated :: h.emptied.dropEvents

/-- Whether the handle is empty, as text. -/
def joinedText (h : Handle) : String :=
  if h.inner.isNone then "true" else "false"

/-- The parts of a handle spelled out. -/
def debug (h : Handle) : String :=
  "ThreadHandle \x7b num: " ++ h.who.debug ++ ", joined: " ++ h.joinedText ++ " \x7d"

/-- The parts of a handle spelled out on lines of their own. -/
def debugLines (h : Handle) : String :=
  "ThreadHandle \x7b\n    num: ThreadNum(\n        " ++ h.who.numeral ++ ",\n    ),\n    joined: "
    ++ h.joinedText ++ ",\n\x7d"

theorem join_of_failsJoin {h : Handle} (fails : h.failsJoin = true) (ending : Option Panic) :
    h.join ending = .error (.injectedJoin h.who) := by
  simp [join, fails]

theorem dropEvents_emptied (h : Handle) : h.emptied.dropEvents = [] := rfl

end Handle

/-! ## Launchers -/

/-- A way to start a thread. -/
inductive Launcher where
  /-- Asks the operating system for a named thread. -/
  | system
  /-- Does the same, but makes a step fail. -/
  | faulty (fault : Fault)
  /-- Starts nothing and reports a failure. -/
  | refusing (failure : RunFailure)
  /-- Hands out a thread of its own making, under a number of its own choice, with a join that
  may be made to fail. -/
  | ready (who : Speaker) (worker : Worker) (failsJoin : Bool := false)
  deriving DecidableEq, Repr

namespace Launcher

/-- Asks the system for a thread named for the speaker; the system may refuse. -/
def spawnSystem (who : Speaker) (refusal : Option SystemError) : Except RunFailure Handle :=
  match refusal with
  | some e => .error (.spawn who e)
  | none => .ok (.of who { thread := some who.threadName })

/-- Starts a thread for a speaker, given whether the system would refuse it. -/
def spawn (l : Launcher) (who : Speaker) (refusal : Option SystemError) :
    Except RunFailure Handle :=
  match l with
  | .system => spawnSystem who refusal
  | .faulty .spawn => .error (.injectedSpawn who)
  | .faulty .join => (spawnSystem who refusal).map Handle.failOnJoin
  | .refusing failure => .error failure
  | .ready own worker failsJoin => .ok { Handle.of own worker with failsJoin }

/-- The two launchers that are in stock: the system's, or the one that injects a fault. -/
def stock : Option Fault → Launcher
  | none => .system
  | some fault => .faulty fault

/-- The system's launcher spelled out. -/
def debugSystem : String := "OsSpawner"

/-- The parts of a launcher that injects a fault spelled out. -/
def debugFaulty (fault : Fault) : String :=
  "FaultySpawner \x7b fault: " ++ fault.name ++ " \x7d"

/-- The launchers that inject each fault spelled out as a list. -/
def debugFaults (faults : List Fault) : String :=
  "[" ++ ", ".intercalate (faults.map debugFaulty) ++ "]"

end Launcher

/-- Launchers to be used one after the other; the last is used again and again. -/
structure Roster where
  current : Launcher := .system
  later : List Launcher := []
  deriving DecidableEq, Repr

namespace Roster

/-- The roster of a list, the system's launcher if the list is empty. -/
def ofList : List Launcher → Roster
  | [] => {}
  | current :: later => { current, later }

/-- The roster after its launcher was used. -/
def next (r : Roster) : Roster :=
  match r.later with
  | [] => r
  | current :: later => { current, later }

end Roster

end Duet
