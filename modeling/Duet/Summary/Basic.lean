import Duet.Duration
import Duet.Status
import Duet.Text.Quoted

/-!
# Summaries of runs

A summary tells how a run ended, why it failed if it did, how many workers were started and
waited for, and how long it took. It has a text for people and one that spells out its parts.
-/

namespace Duet

/-- What there is to say about one run. -/
structure Summary where
  status : Status := .success
  code : Int32 := Status.success.code
  failure : Option String := none
  spawned : UInt64 := 0
  joined : UInt64 := 0
  elapsed : Option Duration := none
  deriving DecidableEq, Repr

namespace Summary

/-- The summary with a status and the code that belongs to it. -/
def withStatus (s : Summary) (status : Status) : Summary :=
  { s with status, code := status.code }

/-! ## Renderings -/

/-- The line that tells the status. -/
def statusLine (s : Summary) : String :=
  "Run finished with status: " ++ s.status.display ++ "\n"

/-- The line that tells the cause of a failure. -/
def causeLine (failure : String) : String :=
  "Cause: " ++ failure ++ "\n"

/-- The line that tells the numbers of workers. -/
def countLine (s : Summary) : String :=
  "Spawned " ++ Text.natText s.spawned.toNat ++ " worker thread(s), joined "
    ++ Text.natText s.joined.toNat ++ ".\n"

/-- The line that tells the time. -/
def timeLine (elapsed : Duration) : String :=
  "Nondeterministic realtime elapsed: " ++ elapsed.display ++ "\n"

/-- The summary for people, a line for each thing known. -/
def display (s : Summary) : String :=
  s.statusLine ++ (s.failure.map causeLine).getD "" ++ s.countLine
    ++ (s.elapsed.map timeLine).getD ""

/-- An optional part spelled out. -/
def optionText : Option String → String
  | none => "None"
  | some text => "Some(" ++ text ++ ")"

/-- The parts of a summary spelled out. -/
def debug (s : Summary) : String :=
  "RunSummary \x7b status: " ++ s.status.name
    ++ ", code: " ++ Text.intText s.code.toInt
    ++ ", failure: " ++ optionText (s.failure.map Text.quoteString)
    ++ ", threads_spawned: " ++ Text.natText s.spawned.toNat
    ++ ", threads_joined: " ++ Text.natText s.joined.toNat
    ++ ", realtime_elapsed: " ++ optionText (s.elapsed.map Duration.display) ++ " \x7d"

end Summary

end Duet
