import Duet.Greeter

/-!
# Scripted sinks

A scripted sink answers each call from a queue of actions: one queue for each kind of call and
each side, the calling thread's or the worker's. When a queue is used up, its calls succeed. A
script is finite, so a greeting that is performed against it ends.

**Only the calls decide what is said**: the bytes a sink took are read off the exchanges
(`Exchange.taken`).
-/

namespace Duet

/-! ## Actions -/

/-- What a scripted sink does at one call. -/
inductive Action where
  | succeed
  | panic (panic : Panic)
  | refuse (error : SystemError)
  | take (count : Nat)
  deriving DecidableEq, Repr

/-- The reply an action gives to a call: asking for a writer cannot be refused, and only a write
can be cut short. -/
def Action.reply : Action → SinkCall → Reply
  | .panic p, _ => .panicked p
  | .refuse _, .writer => .done 0
  | .refuse e, _ => .failed e
  | .take count, .write data => .done (min count data.length)
  | _, call => .done call.offered.length

/-- The actions of one side, by kind of call. -/
structure Queues where
  writer : List Action := []
  write : List Action := []
  flush : List Action := []
  deriving DecidableEq, Repr

namespace Queues

/-- The queue that answers a call. -/
def on (q : Queues) : SinkCall → List Action
  | .writer => q.writer
  | .write _ => q.write
  | .flush => q.flush

/-- The action for a call. -/
def action (q : Queues) (call : SinkCall) : Action :=
  (q.on call).headD .succeed

/-- The queues after a call. -/
def after (q : Queues) : SinkCall → Queues
  | .writer => { q with writer := q.writer.tail }
  | .write _ => { q with write := q.write.tail }
  | .flush => { q with flush := q.flush.tail }

/-- The reply to a call. -/
def reply (q : Queues) (call : SinkCall) : Reply :=
  (q.action call).reply call

end Queues

/-! ## Exchanges -/

/-- A call on a sink, the name of the thread that made it, and the reply. -/
structure Exchange where
  thread : Option String
  call : SinkCall
  reply : Reply
  deriving DecidableEq, Repr

/-- The bytes a sink took in an exchange. -/
def Exchange.taken (x : Exchange) : List UInt8 :=
  match x.call, x.reply with
  | .write data, .done count => data.take count
  | _, _ => []

/-! ## A greeting against a script -/

/-- How a greeting went: where it ended, what was exchanged, and the actions that are left. -/
structure Greeted where
  greeter : Greeter
  exchanges : List Exchange
  queues : Queues
  deriving DecidableEq, Repr

namespace Greeter

/-- Every exchange uses up an action or comes closer to the end. -/
theorem measure_resume {g : Greeter} {call : SinkCall} (h : g.next = some call) (q : Queues) :
    (q.after call).write.length + (g.resume (q.reply call)).distance
      < q.write.length + g.distance := by
  cases g with
  | finished => simp [next] at h
  | panicked p => simp [next] at h
  | opening line =>
    obtain rfl : SinkCall.writer = call := by simpa [next] using h
    have bound := distance_resume_opening line (q.reply .writer)
    have start : (opening line).distance = 3 := rfl
    simp only [Queues.after, start]
    omega
  | flushing =>
    obtain rfl : SinkCall.flush = call := by simpa [next] using h
    have start : flushing.distance = 1 := rfl
    simp only [Queues.after, distance_resume_flushing, start]
    omega
  | writing rest =>
    obtain rfl : SinkCall.write rest = call := by simpa [next] using h
    have start : (writing rest).distance = 2 := rfl
    cases queue : q.write with
    | nil =>
      have all : q.reply (.write rest) = .done rest.length := by
        simp [Queues.reply, Queues.action, Queues.on, queue, Action.reply, SinkCall.offered]
      rw [all, resume_writing_all, start]
      simp [Queues.after, queue, distance]
    | cons action more =>
      have bound := distance_resume_writing rest (q.reply (.write rest))
      simp only [Queues.after, queue, start, List.tail_cons, List.length_cons]
      omega

/-- Performs a greeting on a thread, from wherever it stands to its end. -/
def perform (thread : Option String) (g : Greeter) (q : Queues) : Greeted :=
  match _h : g.next with
  | none => ⟨g, [], q⟩
  | some call =>
    let reply := q.reply call
    let rest := perform thread (g.resume reply) (q.after call)
    { rest with exchanges := ⟨thread, call, reply⟩ :: rest.exchanges }
termination_by q.write.length + g.distance
decreasing_by exact measure_resume (by assumption) q

end Greeter

/-! ## Both sides -/

/-- The actions of a sink for the calling thread and for every other thread. -/
structure Script where
  caller : Queues := {}
  others : Queues := {}
  deriving DecidableEq, Repr

namespace Script

/-- The script of a sink that refuses every write and every flush of one run. -/
def refusing (e : SystemError) : Script :=
  let queues : Queues := { write := [.refuse e], flush := [.refuse e] }
  ⟨queues, queues⟩

/-- Performs a greeting on a thread; the thread's name decides the side. -/
def greet (s : Script) (thread : Option String) (who : Speaker) :
    Greeter × List Exchange × Script :=
  if thread = some Speaker.callingThread then
    let greeted := (Greeter.start who).perform thread s.caller
    (greeted.greeter, greeted.exchanges, { s with caller := greeted.queues })
  else
    let greeted := (Greeter.start who).perform thread s.others
    (greeted.greeter, greeted.exchanges, { s with others := greeted.queues })

end Script

end Duet
