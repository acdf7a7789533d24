import Duet.Text.Decimal
import Duet.Text.Layout

/-!
# How a run ends

A run succeeds, or it fails at starting the worker, or at waiting for it. Each ending has a
number, which callers see as the exit code, a name for machines and a phrase for people.
-/

namespace Duet

/-- The three endings of a run. -/
inductive Status where
  | success
  | spawnFailed
  | joinFailed
  deriving DecidableEq, Repr

namespace Status

/-- The endings in the order of their numbers. -/
def all : List Status := [.success, .spawnFailed, .joinFailed]

/-- The number of an ending. -/
def number : Status → Nat
  | .success => 0
  | .spawnFailed => 1
  | .joinFailed => 2

/-- The number as the code that a summary holds. -/
def code (s : Status) : Int32 :=
  Int32.ofNat s.number

/-- The number as a process's exit code. -/
def exitCode (s : Status) : UInt8 :=
  UInt8.ofNat s.number

/-- The name that stands in data. -/
def name : Status → String
  | .success => "Success"
  | .spawnFailed => "SpawnFailed"
  | .joinFailed => "JoinFailed"

/-- The ending with the given name. -/
def ofName? (name : String) : Option Status :=
  all.find? (·.name = name)

/-- What the ending is called in sentences. -/
def phrase : Status → String
  | .success => "success"
  | .spawnFailed => "spawn failed"
  | .joinFailed => "join failed"

/-- The phrase with the number. -/
def display (s : Status) : String :=
  s.phrase ++ " (" ++ Text.natText s.number ++ ")"

/-- Whether both speakers greeted and the worker was waited for. -/
def isSuccess (s : Status) : Bool :=
  s = .success

/-- A status in a field: only the choice of form matters. -/
def layOut (s : Status) (layout : Text.Layout) : String :=
  match layout.form with
  | .plain => s.display
  | _ => s.name

theorem ofName?_name (s : Status) : ofName? s.name = some s := by
  cases s <;> rfl

theorem number_injective {a b : Status} (h : a.number = b.number) : a = b := by
  revert h
  cases a <;> cases b <;> decide

end Status

end Duet
