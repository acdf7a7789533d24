import Duet.Sink.Shelf
import Duet.Worker.Handle

/-!
# Several handles at once

A crew is a table of handles. Each spawn that succeeds puts a handle into the next slot; a join
or a drop takes it out for good, waits for its worker and tells what the worker did.

**Every slot is used up at most once** (`Crew.find?_take`), and using one leaves the others as
they were (`Crew.find?_take_of_ne`).
-/

namespace Duet

/-- What a worker of a crew is asked to do: greet into a buffer of its own, then maybe panic. -/
structure Entry where
  greets : Bool := false
  panic : Option Panic := none
  deriving DecidableEq, Repr

/-- A handle with what its worker was asked to do, and as whom. -/
structure Member where
  handle : Handle
  who : Speaker
  entry : Entry
  deriving DecidableEq, Repr

/-- What became of an entry: whether it ran, on which thread, and what it greeted. -/
structure Deed where
  ran : Bool
  thread : Option String
  output : List UInt8
  deriving DecidableEq, Repr

namespace Member

/-- What a worker has done when it has ended. -/
def deed (m : Member) : Deed :=
  match m.handle.inner with
  | some worker =>
    if worker.runsEntry then ⟨true, worker.thread, if m.entry.greets then m.who.said else []⟩
    else ⟨false, none, []⟩
  | none => ⟨false, none, []⟩

/-- How a worker has ended. -/
def ending (m : Member) : Option Panic :=
  m.handle.inner.bind (·.ending m.entry.panic)

end Member

/-- The slots of a crew; a slot that was used up is empty. -/
structure Crew where
  slots : List (Option Member) := []
  deriving DecidableEq, Repr

namespace Crew

/-- The member in a slot. -/
def find? (c : Crew) (slot : Nat) : Option Member :=
  (c.slots[slot]?).join

/-- Puts a member into a new slot. -/
def add (c : Crew) (m : Member) : Crew :=
  ⟨c.slots ++ [some m]⟩

/-- Empties a slot. -/
def take (c : Crew) (slot : Nat) : Crew :=
  ⟨c.slots.set slot none⟩

theorem find?_take (c : Crew) (slot : Nat) : (c.take slot).find? slot = none := by
  by_cases lt : slot < c.slots.length <;> simp [find?, take, lt]

theorem find?_take_of_ne (c : Crew) {a b : Nat} (ne : a ≠ b) :
    (c.take a).find? b = c.find? b := by
  simp [find?, take, List.getElem?_set_ne ne]

/-! ## Steps -/

/-- Something done with a crew. A spawn may be refused by the system. -/
inductive Step where
  | spawn (launcher : Launcher) (who : Speaker) (entry : Entry)
    (refusal : Option SystemError := none)
  | debug (slot : Nat)
  | join (slot : Nat)
  | drop (slot : Nat)
  deriving DecidableEq, Repr

/-- The answer to a step. -/
inductive Answer where
  | started (slot : Nat) (debug : String)
  | refused (failure : RunFailure)
  | shown (debug lines : String)
  | joined (report : Except RunFailure Unit) (deed : Deed)
  | dropped (deed : Deed)
  | noSuchHandle

/-- What a step leads to: the crew after it, the answer, and what was logged. -/
structure Outcome where
  crew : Crew
  answer : Answer
  events : List Log.Event := []

/-- Takes a step. -/
def step (c : Crew) : Step → Outcome
  | .spawn launcher who entry refusal =>
    match launcher.spawn who refusal with
    | .error failure => { crew := c, answer := .refused failure }
    | .ok handle =>
      { crew := c.add { handle, who, entry }
        answer := .started c.slots.length handle.debug }
  | .debug slot =>
    match c.find? slot with
    | none => { crew := c, answer := .noSuchHandle }
    | some m => { crew := c, answer := .shown m.handle.debug m.handle.debugLines }
  | .join slot =>
    match c.find? slot with
    | none => { crew := c, answer := .noSuchHandle }
    | some m =>
      { crew := c.take slot
        answer := .joined (m.handle.join m.ending) m.deed
        events := m.handle.joinEvents }
  | .drop slot =>
    match c.find? slot with
    | none => { crew := c, answer := .noSuchHandle }
    | some m =>
      { crew := c.take slot, answer := .dropped m.deed, events := m.handle.dropEvents }

/-- Takes steps in order and collects what they lead to. -/
def run (c : Crew) : List Step → List Outcome
  | [] => []
  | first :: more =>
    let outcome := c.step first
    outcome :: outcome.crew.run more

end Crew

end Duet
