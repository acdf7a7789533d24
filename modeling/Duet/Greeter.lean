import Duet.RunFailure

/-!
# Saying a line to a sink

A greeter is one thread saying its line: it asks the sink for a writer, offers the line, offers
what is left of it as long as the sink takes only part, and flushes. An interrupted write is
offered again. A write that takes nothing, or that fails in another way, ends the writing; what
the flush answers is of no consequence. A panic of the sink ends the greeting where it stands.

The greeter is written as a machine that names its next call and takes the reply, so that it can
be run against any sink and stopped between any two calls.

**Every offer is exactly the part of the line that was not taken yet** (`Greeter.next_resume`).
-/

namespace Duet

/-! ## The calls on a sink -/

/-- What a sink is asked to do. -/
inductive SinkCall where
  | writer
  | write (data : List UInt8)
  | flush
  deriving DecidableEq, Repr

namespace SinkCall

/-- The name of a call. -/
def name : SinkCall → String
  | .writer => "writer"
  | .write _ => "write"
  | .flush => "flush"

/-- The bytes that are offered. -/
def offered : SinkCall → List UInt8
  | .write data => data
  | _ => []

end SinkCall

/-- What a sink answers. The count of `done` is how many of the offered bytes were taken. -/
inductive Reply where
  | done (count : Nat)
  | failed (error : SystemError)
  | panicked (panic : Panic)
  deriving DecidableEq, Repr

/-! ## The machine -/

/-- How far a thread is in saying its line. -/
inductive Greeter where
  | opening (line : List UInt8)
  | writing (rest : List UInt8)
  | flushing
  | finished
  | panicked (panic : Panic)
  deriving DecidableEq, Repr

namespace Greeter

/-- A speaker about to say the line. -/
def start (who : Speaker) : Greeter :=
  .opening who.line

/-- The stage in which a rest is still to be said. -/
def offering (rest : List UInt8) : Greeter :=
  if rest.isEmpty then .flushing else .writing rest

/-- The next call, if there is one. -/
def next : Greeter → Option SinkCall
  | .opening _ => some .writer
  | .writing rest => some (.write rest)
  | .flushing => some .flush
  | .finished => none
  | .panicked _ => none

/-- How the greeting goes on after a reply. -/
def resume : Greeter → Reply → Greeter
  | .finished, _ => .finished
  | .panicked p, _ => .panicked p
  | _, .panicked p => .panicked p
  | .opening line, _ => offering line
  | .writing rest, .done count => if count = 0 then .flushing else offering (rest.drop count)
  | .writing rest, .failed e => if e.isInterrupted then .writing rest else .flushing
  | .flushing, _ => .finished

/-- The panic that ended the greeting. -/
def panic? : Greeter → Option Panic
  | .panicked p => some p
  | _ => none

/-- A bound on the calls that follow if every write takes all it is offered. -/
def distance : Greeter → Nat
  | .opening _ => 3
  | .writing _ => 2
  | .flushing => 1
  | .finished => 0
  | .panicked _ => 0

/-! ## Laws -/

theorem distance_offering (rest : List UInt8) : (offering rest).distance ≤ 2 := by
  unfold offering
  split <;> simp [distance]

theorem distance_resume_opening (line : List UInt8) (r : Reply) :
    ((Greeter.opening line).resume r).distance ≤ 2 := by
  cases r with
  | panicked p => simp [resume, distance]
  | done count => exact distance_offering line
  | failed e => exact distance_offering line

theorem distance_resume_writing (rest : List UInt8) (r : Reply) :
    ((Greeter.writing rest).resume r).distance ≤ 2 := by
  cases r with
  | panicked p => simp [resume, distance]
  | done count =>
    rw [resume]
    split
    · simp [distance]
    · exact distance_offering _
  | failed e =>
    rw [resume]
    split <;> simp [distance]

/-- A write that takes everything leaves only the flush. -/
theorem resume_writing_all (rest : List UInt8) :
    (Greeter.writing rest).resume (.done rest.length) = .flushing := by
  rw [resume]
  split
  · rfl
  · simp [offering]

theorem distance_resume_flushing (r : Reply) : (Greeter.flushing.resume r).distance = 0 := by
  cases r <;> rfl

theorem next_offering (rest : List UInt8) :
    (offering rest).next = some (if rest.isEmpty then .flush else .write rest) := by
  unfold offering
  split <;> simp [next]

/-- After a write took some bytes, the next offer is what it left. -/
theorem next_resume (rest : List UInt8) (count : Nat) (pos : 0 < count)
    (left : count < rest.length) :
    ((Greeter.writing rest).resume (.done count)).next = some (.write (rest.drop count)) := by
  have ne : count ≠ 0 := by omega
  have isNe : (rest.drop count).isEmpty = false := by
    rw [List.isEmpty_eq_false_iff]
    intro nil
    have := List.drop_eq_nil_iff.1 nil
    omega
  simp [resume, ne, next_offering, isNe]

end Greeter

end Duet
