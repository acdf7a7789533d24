import Duet.Proofs.Greeting
import Duet.Proofs.Run.Duo
import Duet.Sink.Shelf

/-!
# Several runs at once on one buffer

An ensemble is any number of runs under way, each reaching the same buffer through copies of one
handle. A turn lets one thread of one run make its next step: one call on the sink, the spawn, or
the join, which is open only when the worker has ended. A schedule is a list of turns; a turn of
a thread that cannot go on changes nothing, so that the schedules are all the interleavings.

**In every state that an ensemble gets into, the buffer holds whole lines, never more of the
workers' than of the callers'**, and when every run has returned no line is missing and none is
there twice (`Ensemble.Tuned`, kept by every step in `Tuned.step`).

What this does not establish: which of the runs' lines comes first is left to the schedule.
-/

namespace Duet

/-! ## Calls on a buffer -/

/-- What a call on a sink asks of a buffer's handle. -/
def SinkCall.use : SinkCall → Shelf.Use
  | .writer => .writer
  | .write data => .write data
  | .flush => .flush

namespace Shelf.Answer

/-- What an answer tells a greeter. -/
def reply : Answer → Reply
  | .written (.count n) _ => .done n
  | _ => .done 0

/-- The handle that an answer gives out, or else the one there was. -/
def handleOr (before : Nat) : Answer → Nat
  | .handle number => number
  | _ => before

end Shelf.Answer

/-! ## Voices -/

/-- A run of an ensemble with the handles of its sink and of its threads. -/
structure Voice where
  duo : Duo
  sink : Nat
  caller : Nat
  worker : Nat
  deriving DecidableEq, Repr

namespace Voice

/-- The handle that a thread writes through. -/
def through (v : Voice) : Speaker → Nat
  | .caller => v.caller
  | .worker => v.worker

/-- The voice with a handle for a thread. -/
def give (v : Voice) (who : Speaker) (handle : Nat) : Voice :=
  match who with
  | .caller => { v with caller := handle }
  | .worker => { v with worker := handle }

/-- A thread makes a call on its sink and goes on with the answer. -/
def call (v : Voice) (shelf : Shelf) (who : Speaker) (call : SinkCall) : Shelf × Voice :=
  let done := shelf.step (.use (v.through who) call.use)
  let resumed := { v with duo := v.duo.resume who done.2.reply }
  (done.1, resumed.give who (done.2.handleOr (v.through who)))

/-- The next step of a thread, if it can go on: a call if one is due, else the spawn, for which
the sink is copied, or the join. -/
def step (v : Voice) (shelf : Shelf) (who : Speaker) : Option (Shelf × Voice) :=
  match v.duo.call? who, who with
  | some call, _ => some (v.call shelf who call)
  | none, .worker => none
  | none, .caller =>
    match v.duo.launch? with
    | some duo =>
      let done := shelf.step (.use v.sink .clone)
      some (done.1, { v with duo, worker := done.2.handleOr v.sink })
    | none => v.duo.join?.map fun duo => (shelf, { v with duo })

end Voice

/-! ## Ensembles -/

/-- A run to be performed: the fault it injects, if any, and what the world makes of it. -/
structure Plan where
  fault : Option Fault := none
  conditions : Conditions := {}
  deriving DecidableEq, Repr

namespace Plan

/-- The launcher that the run uses. -/
def launcher (p : Plan) : Launcher :=
  .stock p.fault

/-- What the spawn of the run gives. -/
def launched (p : Plan) : Except RunFailure Handle :=
  p.launcher.spawn .worker p.conditions.refusal

/-- Whether the run's worker is created. -/
def hires (p : Plan) : Bool :=
  p.launched.toOption.isSome

/-- How the run comes out if it is performed alone on a sink that takes everything. -/
def alone (p : Plan) : Except Panic Account :=
  (Round.perform { roster := { current := p.launcher } } p.conditions).result

/-- The run at its start, with a handle of the sink. -/
def voice (p : Plan) (handle : Nat) : Voice where
  duo := { launcher := p.launcher, conditions := p.conditions }
  sink := handle
  caller := handle
  worker := handle

end Plan

/-- Runs under way that share a shelf. -/
structure Ensemble where
  shelf : Shelf
  voices : List Voice
  deriving DecidableEq, Repr

/-- A turn: the place of a run, and which of its threads goes on. -/
structure Turn where
  run : Nat
  who : Speaker
  deriving DecidableEq, Repr

namespace Ensemble

/-- The runs at their start. They share one buffer that holds some bytes already, each through
a copy of its handle. -/
def start (before : List UInt8) (plans : List Plan) : Ensemble where
  shelf := { buffers := [before], handles := List.replicate plans.length 0 }
  voices := plans.mapIdx fun i p => p.voice i

/-- The bytes of the shared buffer. -/
def buffer (e : Ensemble) : List UInt8 :=
  e.shelf.bytes 0

/-- Takes a turn, if the thread can go on. -/
def step (e : Ensemble) (turn : Turn) : Option Ensemble := do
  let voice ← e.voices[turn.run]?
  let (shelf, voice) ← voice.step e.shelf turn.who
  some { shelf, voices := e.voices.set turn.run voice }

/-- Takes the turns of a schedule in order. -/
def play (e : Ensemble) (schedule : List Turn) : Ensemble :=
  schedule.foldl (fun e turn => (e.step turn).getD e) e

/-- The accounts of the runs, as far as they have returned. -/
def accounts (e : Ensemble) : List (Option Account) :=
  e.voices.map (·.duo.account?)

/-- Every run has returned. -/
def Returned (e : Ensemble) : Prop :=
  ∀ account ∈ e.accounts, account.isSome

end Ensemble

end Duet
