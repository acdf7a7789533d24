import Duet.Speaker
import Duet.Status
import Duet.SystemError

/-!
# Why a run fails

The worker cannot be started, because the system refuses a thread, or it cannot be waited for,
because it panicked or because the wait was made to fail. A panic carries a payload: a text, or
something that cannot be shown.

**A failure decides the status of its run** (`RunFailure.status_ne_success`).
-/

namespace Duet

/-- What a panic carries along. -/
inductive Panic where
  | text (message : String)
  | other
  deriving DecidableEq, Repr

/-- The text of a panic, empty if it has none. -/
def Panic.shown : Panic → String
  | .text message => message
  | .other => ""

/-- Why a run did not succeed. -/
inductive RunFailure where
  | spawn (who : Speaker) (source : SystemError)
  | join (who : Speaker) (reason : String)
  deriving DecidableEq, Repr

namespace RunFailure

/-- The failure to wait for a worker that panicked. -/
def ofPanic (who : Speaker) : Panic → RunFailure
  | .text message => .join who ("thread panicked: " ++ message)
  | .other => .join who "thread panicked"

/-- The failure that an injected spawn fault produces. -/
def injectedSpawn (who : Speaker) : RunFailure :=
  .spawn who (.custom .other "injected spawn fault")

/-- The failure that an injected join fault produces. -/
def injectedJoin (who : Speaker) : RunFailure :=
  .join who "injected join fault"

/-- The status a failure is reported as. -/
def status : RunFailure → Status
  | .spawn _ _ => .spawnFailed
  | .join _ _ => .joinFailed

/-- The message of a failure. -/
def message : RunFailure → String
  | .spawn who _ => "failed to spawn thread #" ++ who.numeral
  | .join who reason => "failed to join thread #" ++ who.numeral ++ ": " ++ reason

/-- The system's error behind a failure. -/
def source? : RunFailure → Option SystemError
  | .spawn _ source => some source
  | .join _ _ => none

/-- The parts of a failure spelled out. -/
def debug : RunFailure → String
  | .spawn who source =>
    "Spawn \x7b num: " ++ who.debug ++ ", source: " ++ source.debug ++ " \x7d"
  | .join who reason =>
    "Join \x7b num: " ++ who.debug ++ ", reason: " ++ Text.quoteString reason ++ " \x7d"

theorem status_ne_success (e : RunFailure) : e.status ≠ .success := by
  cases e <;> simp [status]

end RunFailure

end Duet
