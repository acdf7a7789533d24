import Duet.Round

/-!
# The two threads of a run, step by step

`Round.perform` tells a run as one sequence. Here its two threads are machines of their own: the
calling thread greets, launches, and joins; the worker greets from the moment it was created. A
thread that has a call to make on the sink can be answered at any time and in any way, so every
interleaving of the two, and of either with other runs, is a sequence of the steps below.

**A launch is open only after the caller's greeting, and a join only after the worker's**
(`Duo.launch?`, `Duo.join?`). All that keeps the two apart is that order.
-/

namespace Duet

/-! ## Threads -/

/-- A worker that was created, and how far its greeting is. -/
structure Hired where
  worker : Worker
  greeter : Greeter
  deriving DecidableEq, Repr

/-- A worker at its start; one that does not run its entry has nothing to say. -/
def Hired.begin (worker : Worker) : Hired where
  worker
  greeter := if worker.runsEntry then .start .worker else .finished

/-- How a worker that has nothing more to do has ended. -/
def Hired.ending (h : Hired) : Option Panic :=
  h.worker.ending h.greeter.panic?

/-- Where the calling thread of a run stands. -/
inductive Caller where
  /-- It greets, or has greeted and is about to launch the worker. -/
  | greeting (greeter : Greeter)
  /-- It holds a handle and is about to join. -/
  | holding (handle : Handle)
  /-- The run has returned. -/
  | returned (account : Account)
  deriving DecidableEq, Repr

/-- A run under way: what it launches with, and its threads. -/
structure Duo where
  launcher : Launcher
  conditions : Conditions
  caller : Caller := .greeting (.start .caller)
  hired : Option Hired := none
  deriving DecidableEq, Repr

namespace Duo

/-- What the run's spawn gives. -/
def launched (d : Duo) : Except RunFailure Handle :=
  d.launcher.spawn .worker d.conditions.refusal

/-- The account of the run, once it has returned. -/
def account? (d : Duo) : Option Account :=
  match d.caller with
  | .returned account => some account
  | _ => none

/-! ## Steps -/

/-- The call on the sink that a thread is about to make. -/
def call? (d : Duo) : Speaker → Option SinkCall
  | .caller =>
    match d.caller with
    | .greeting g => g.next
    | _ => none
  | .worker => d.hired.bind (·.greeter.next)

/-- The run after a call of a thread was answered. -/
def resume (d : Duo) (who : Speaker) (reply : Reply) : Duo :=
  match who with
  | .caller =>
    match d.caller with
    | .greeting g => { d with caller := .greeting (g.resume reply) }
    | _ => d
  | .worker =>
    { d with hired := d.hired.map fun h => { h with greeter := h.greeter.resume reply } }

/-- The run after the spawn, which follows the caller's greeting. -/
def launch? (d : Duo) : Option Duo :=
  match d.caller with
  | .greeting .finished =>
    match d.launched with
    | .error failure =>
      some { d with
        caller := .returned (.ofOutcome (.error failure) none d.conditions.elapsed) }
    | .ok handle =>
      some { d with caller := .holding handle, hired := handle.inner.map Hired.begin }
  | _ => none

/-- The run after the join, which waits for the worker's end. -/
def join? (d : Duo) : Option Duo :=
  match d.caller with
  | .holding handle =>
    match d.hired with
    | none =>
      some { d with caller := .returned (.ofOutcome (.ok handle) none d.conditions.elapsed) }
    | some h =>
      if h.greeter.next.isNone then
        some { d with
          caller := .returned (.ofOutcome (.ok handle) h.ending d.conditions.elapsed) }
      else none
  | _ => none

end Duo

end Duet
