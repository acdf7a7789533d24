import Duet.Sink.Script
import Duet.Summary.Basic
import Duet.Worker.Handle

/-!
# One run

The calling thread greets. Then a worker is started, which greets too, and is waited for. A
failure to start the worker, or one reported by the join, ends the run; nothing is tried again.
The run is accounted for by a summary and by what was logged.

If the sink panics under the calling thread's greeting, the panic ends the run with no summary:
no worker is started and nothing is logged. If it panics under the worker's, that is how the
worker ends, and the join reports it.

**Everything the worker says comes after all that the caller says**, because the worker is
started after the caller's greeting ended (`Round.perform`).
-/

namespace Duet

/-! ## The account of a run -/

/-- What a run that was not ended by a panic leaves behind. -/
structure Account where
  summary : Summary
  /-- What was logged while the handle of the worker was held. -/
  held : List Log.Event := []
  /-- What letting go of the handle then would have logged. -/
  onRelease : List Log.Event := []
  /-- What was logged from the join on. -/
  later : List Log.Event
  deriving DecidableEq, Repr

namespace Account

/-- A message of the two greetings' part of the program. -/
def note (severity : Log.Severity) (message : String) : Log.Event :=
  ⟨severity, .runner, message⟩

/-- The last thing a run logs. -/
def finished (status : Status) : Log.Event :=
  note .debug ("run finished: " ++ status.display)

/-- What was logged, in order. -/
def events (a : Account) : List Log.Event :=
  a.held ++ a.later

/-- Closes the account of a run that failed. -/
def failed (summary : Summary) (events : List Log.Event) (failure : RunFailure)
    (elapsed : Duration) : Account where
  summary :=
    { summary.withStatus failure.status with
      failure := some failure.message, elapsed := some elapsed }
  later := events ++ [note .warn failure.message, finished failure.status]

/-- Closes the account of a run that succeeded. -/
def succeeded (summary : Summary) (events : List Log.Event) (elapsed : Duration) :
    Account where
  summary := { summary.withStatus .success with elapsed := some elapsed }
  later := events ++ [finished .success]

/-- The account with what goes with holding a handle. -/
def holding (a : Account) (handle : Handle) : Account :=
  { a with
    held := [note .debug ("spawned worker thread #" ++ Speaker.worker.numeral)]
    onRelease := handle.dropEvents }

/-- The account of a run from what the launcher gave and how the worker ended. -/
def ofOutcome (launched : Except RunFailure Handle) (ending : Option Panic)
    (elapsed : Duration) : Account :=
  match launched with
  | .error failure => failed {} [] failure elapsed
  | .ok handle =>
    let joined := note .debug ("joined worker thread #" ++ Speaker.worker.numeral)
    match handle.join ending with
    | .error failure => (failed { spawned := 1 } handle.joinEvents failure elapsed).holding handle
    | .ok () =>
      (succeeded { spawned := 1, joined := 1 } (handle.joinEvents ++ [joined]) elapsed).holding
        handle

end Account

/-! ## Performing a run -/

/-- Something that can be observed of a run. -/
inductive Occurrence where
  | exchange (exchange : Exchange)
  | launch (launcher : Launcher)
  deriving DecidableEq, Repr

/-- What runs draw on, one after the other: launchers and a scripted sink. -/
structure Stage where
  roster : Roster := {}
  script : Script := {}
  deriving DecidableEq, Repr

/-- What the world makes of one run: whether it would refuse a thread, and the time taken. -/
structure Conditions where
  refusal : Option SystemError := none
  elapsed : Duration := Duration.zero
  deriving DecidableEq, Repr

/-- A run that was performed: what was observed, how it came out, and what is left to draw on. -/
structure Round where
  occurrences : List Occurrence
  result : Except Panic Account
  stage : Stage

namespace Round

/-- The worker's part of a run: its exchanges, how it ends, and the script that is left. -/
def work (worker : Worker) (script : Script) : List Exchange × Option Panic × Script :=
  if worker.runsEntry then
    let (greeter, exchanges, script) := script.greet worker.thread .worker
    (exchanges, worker.ending greeter.panic?, script)
  else ([], worker.ending none, script)

/-- The part of a run that follows the caller's greeting. -/
def second (stage : Stage) (conditions : Conditions) : Round :=
  let launcher := stage.roster.current
  let roster := stage.roster.next
  let launched := launcher.spawn .worker conditions.refusal
  match launched.toOption.bind (·.inner) with
  | none =>
    { occurrences := [.launch launcher]
      result := .ok (.ofOutcome launched none conditions.elapsed)
      stage := { stage with roster } }
  | some worker =>
    let (exchanges, ending, script) := work worker stage.script
    { occurrences := .launch launcher :: exchanges.map .exchange
      result := .ok (.ofOutcome launched ending conditions.elapsed)
      stage := { roster, script } }

/-- Performs a run. -/
def perform (stage : Stage) (conditions : Conditions) : Round :=
  let (greeter, exchanges, script) := stage.script.greet (some Speaker.callingThread) .caller
  let first := exchanges.map Occurrence.exchange
  match greeter.panic? with
  | some panic => { occurrences := first, result := .error panic, stage := { stage with script } }
  | none =>
    let rest := second { stage with script } conditions
    { rest with occurrences := first ++ rest.occurrences }

/-- Performs as many runs as there are conditions, each drawing on what the one before left. -/
def performAll (stage : Stage) : List Conditions → List Round
  | [] => []
  | conditions :: more =>
    let round := perform stage conditions
    round :: performAll round.stage more

/-- The parts of a run by default spelled out: the system's threads, the standard output. -/
def debugDefault : String :=
  "Runner \x7b spawner: " ++ Launcher.debugSystem ++ ", sink: StdoutSink \x7d"

/-! ## What was observed -/

/-- The calls on the sink, in order. -/
def exchanges (r : Round) : List Exchange :=
  r.occurrences.filterMap fun
    | .exchange x => some x
    | .launch _ => none

/-- The launchers that were asked for a worker. -/
def launches (r : Round) : List Launcher :=
  r.occurrences.filterMap fun
    | .exchange _ => none
    | .launch l => some l

/-- The bytes the sink took, in order. -/
def output (r : Round) : List UInt8 :=
  r.exchanges.flatMap Exchange.taken

/-- What was logged. -/
def events (r : Round) : List Log.Event :=
  match r.result with
  | .ok account => account.events
  | .error _ => []

end Round

end Duet
