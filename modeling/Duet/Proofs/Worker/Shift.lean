import Duet.Proofs.Greeting
import Duet.Worker.Crew

/-!
# A crew at work

`Crew.step` tells a join or a drop as one step, at the end of which the worker has ended. Here the
workers go on by themselves and the two are calls that take their time: a join takes the worker
out of its handle, waits for it, and then lets go of what is left of the handle; a drop lets go of
the handle as it is. Letting go is the same code in both, and it waits if there is a worker in the
handle. Calls on several handles may be under way at once.

A move begins something, lets a call go on, or lets a worker go on, so that the lists of moves are
all the interleavings. A call that has to wait cannot go on before its worker has ended
(`Post.await`).

**Every answer is the one that `Crew.run` gives** if the same things are done one after the other
in the order in which they were begun (`Shift.Sound.answers`).
-/

namespace Duet

/-! ## Posts -/

/-- What waits for a worker: a join, or letting go of a handle. -/
inductive Way where
  | join
  | drop
  deriving DecidableEq, Repr

/-- How far a worker is: in its greeting, or at its end. -/
inductive Progress where
  | running (greeter : Greeter)
  | ended (ending : Option Panic)
  deriving DecidableEq, Repr

/-- Where a handle is. A call that has it is known by its number. -/
inductive Hold where
  /-- In its slot. -/
  | held (handle : Handle)
  /-- In a join that has yet to take the worker out of it. -/
  | joining (call : Nat) (handle : Handle)
  /-- Being let go of, at the end of a join that reports something or by itself. -/
  | leaving (call : Nat) (handle : Handle) (report : Option (Except RunFailure Unit))
    (events : List Log.Event)
  /-- Gone, in a join that reported something or let go of by itself. -/
  | gone (report : Option (Except RunFailure Unit))

/-- The answer to something that was begun, and what it logged. -/
structure Told where
  answer : Crew.Answer
  events : List Log.Event := []

/-- Whether the worker of a member greets. -/
def Member.greets (m : Member) : Bool :=
  m.handle.inner.any (·.runsEntry) && m.entry.greets

/-- A member as it was created, where its handle is, how far its worker is and what that has said,
and what has waited for it. -/
structure Post where
  member : Member
  hold : Hold
  progress : Progress
  output : List UInt8 := []
  waits : List Way := []

namespace Post

/-- A member that was just created. -/
def begin (m : Member) : Post where
  member := m
  hold := .held m.handle
  progress := .running (if m.greets then .start m.who else .finished)

/-- The member, as long as its handle is in its slot. -/
def member? (p : Post) : Option Member :=
  match p.hold with
  | .held handle => some { p.member with handle }
  | _ => none

/-- What the worker has done so far. -/
def deed (p : Post) : Deed :=
  match p.member.handle.inner with
  | some worker =>
    if worker.runsEntry then ⟨true, worker.thread, p.output⟩ else ⟨false, none, []⟩
  | none => ⟨false, none, []⟩

/-- The worker goes on: it makes its next call on its buffer, which takes everything, or ends. -/
def work (p : Post) : Option Post :=
  match p.progress with
  | .ended _ => none
  | .running g =>
    match g.next with
    | none => some { p with progress := .ended p.member.ending }
    | some call =>
      some { p with
        progress := .running (g.resume (.done call.offered.length))
        output := p.output ++ call.offered }

/-- Waits for the worker in a handle, if there is one, and tells how it ended. -/
def await (p : Post) (way : Way) (handle : Handle) : Option (Post × Option Panic) :=
  match handle.inner, p.progress with
  | none, _ => some (p, none)
  | some _, .ended ending => some ({ p with waits := p.waits ++ [way] }, ending)
  | some _, .running _ => none

/-- What a call answers that has let go of a handle. -/
def answer (p : Post) : Option (Except RunFailure Unit) → Crew.Answer
  | some report => .joined report p.deed
  | none => .dropped p.deed

/-- The call that has the handle goes on; at its end it gives an answer. -/
def proceed (p : Post) : Option (Post × Option (Nat × Told)) :=
  match p.hold with
  | .joining call handle =>
    (p.await .join handle).map fun (p, ending) =>
      ({ p with
        hold := .leaving call handle.emptied (some (handle.join ending)) [handle.terminated] },
        none)
  | .leaving call handle report events =>
    (p.await .drop handle).map fun (p, _) =>
      ({ p with hold := .gone report }, some (call, ⟨p.answer report, events ++ handle.dropEvents⟩))
  | _ => none

end Post

/-! ## Shifts -/

/-- Something that was begun, with its answer once there is one. -/
structure Asked where
  step : Crew.Step
  told : Option Told := none

/-- A crew at work: the members there have been, and all that was begun. -/
structure Shift where
  posts : List Post := []
  asked : List Asked := []

/-- A move of a shift. -/
inductive Move where
  /-- Something is begun with the crew. -/
  | begin (step : Crew.Step)
  /-- The call that has the handle of a slot goes on. -/
  | proceed (slot : Nat)
  /-- The worker of a slot goes on. -/
  | work (slot : Nat)

/-- The slot that a move is about. -/
def Move.slot? : Move → Option Nat
  | .begin (.spawn _ _ _ _) => none
  | .begin (.debug slot) => some slot
  | .begin (.join slot) => some slot
  | .begin (.drop slot) => some slot
  | .proceed slot => some slot
  | .work slot => some slot

namespace Shift

/-- The handles in their slots. -/
def crew (s : Shift) : Crew :=
  ⟨s.posts.map Post.member?⟩

/-- The steps that were begun, in order. -/
def steps (s : Shift) : List Crew.Step :=
  s.asked.map (·.step)

/-- Notes that something was begun, with the answer if there is one at once. -/
def ask (s : Shift) (step : Crew.Step) (told : Option Told) : Shift :=
  { s with asked := s.asked ++ [⟨step, told⟩] }

/-- Notes an answer. -/
def tell (s : Shift) : Option (Nat × Told) → Shift
  | none => s
  | some (call, told) => { s with asked := s.asked.modify call ({ · with told }) }

/-- Puts a member that was just created into a new slot. -/
def add (s : Shift) (m : Member) : Shift :=
  { s with posts := s.posts ++ [Post.begin m] }

/-- Moves the handle of a slot. -/
def place (s : Shift) (slot : Nat) (hold : Hold) : Shift :=
  { s with posts := s.posts.modify slot ({ · with hold }) }

/-- Begins something. A join and a drop take the handle out of its slot and have no answer yet. -/
def begin (s : Shift) (step : Crew.Step) : Shift :=
  match step with
  | .spawn launcher who entry refusal =>
    match launcher.spawn who refusal with
    | .error failure => s.ask step (some ⟨.refused failure, []⟩)
    | .ok handle =>
      (s.add { handle, who, entry }).ask step (some ⟨.started s.posts.length handle.debug, []⟩)
  | .debug slot =>
    match s.crew.find? slot with
    | none => s.ask step (some ⟨.noSuchHandle, []⟩)
    | some m => s.ask step (some ⟨.shown m.handle.debug m.handle.debugLines, []⟩)
  | .join slot =>
    match s.crew.find? slot with
    | none => s.ask step (some ⟨.noSuchHandle, []⟩)
    | some m => (s.place slot (.joining s.asked.length m.handle)).ask step none
  | .drop slot =>
    match s.crew.find? slot with
    | none => s.ask step (some ⟨.noSuchHandle, []⟩)
    | some m => (s.place slot (.leaving s.asked.length m.handle none [])).ask step none

/-- Makes a move, if it can be made. -/
def step (s : Shift) : Move → Option Shift
  | .begin step => some (s.begin step)
  | .proceed slot => do
    let p ← s.posts[slot]?
    let (p, told) ← p.proceed
    some ({ s with posts := s.posts.set slot p }.tell told)
  | .work slot => do
    let p ← s.posts[slot]?
    let p ← p.work
    some { s with posts := s.posts.set slot p }

/-- Makes moves in order; one that cannot be made changes nothing. -/
def play (s : Shift) (moves : List Move) : Shift :=
  moves.foldl (fun s move => (s.step move).getD s) s

end Shift

/-! ## The crew one step after the other -/

namespace Crew

/-- The crew after steps. -/
def after (c : Crew) (steps : List Step) : Crew :=
  steps.foldl (fun c step => (c.step step).crew) c

/-- What steps answer and log. -/
def tells (c : Crew) (steps : List Step) : List Told :=
  (c.run steps).map fun outcome => ⟨outcome.answer, outcome.events⟩

/-- What one step answers and logs. -/
def told (c : Crew) (step : Step) : Told :=
  ⟨(c.step step).answer, (c.step step).events⟩

theorem tells_concat (c : Crew) (steps : List Step) (step : Step) :
    c.tells (steps ++ [step]) = c.tells steps ++ [(c.after steps).told step] := by
  induction steps generalizing c with
  | nil => rfl
  | cons first steps ih =>
    have rest := ih (c.step first).crew
    simp only [tells] at rest
    simp [tells, run, rest, after]

theorem after_concat (c : Crew) (steps : List Step) (step : Step) :
    c.after (steps ++ [step]) = ((c.after steps).step step).crew := by
  simp [after]

theorem length_tells (c : Crew) (steps : List Step) : (c.tells steps).length = steps.length := by
  induction steps generalizing c with
  | nil => rfl
  | cons first steps ih =>
    have rest := ih (c.step first).crew
    simp only [tells, List.length_map] at rest
    simp [tells, run, rest]

end Crew

end Duet
