import Duet.Proofs.Run.Confinement

/-!
# Runs with an injected fault beside plain runs

A fault can be made to happen at the join or at the spawn. What it changes is told by letting the
run with the fault go on beside the plain one, in front of the same sink and by the same schedule.
With a fault at the join the two stay in step to their end: all there is between them is a mark on
the handle, and what the join makes of it (`Recital.unjoined`). With a fault at the spawn they part
where the plain run gets its worker: one goes on, and the other has returned (`Recital.unspawned`).

**A join fault changes nothing that the sink sees, and a spawn fault leaves out the worker's
greeting and nothing else**, whatever the system and the sink do to either (`Recital.faults_told`).
-/

namespace Duet

/-! ## What is to be said of a fault -/

namespace Summary

/-- What a summary says of a join that was made to fail. -/
structure TellsJoinFault (s : Summary) : Prop where
  status : s.status = .joinFailed
  failure : s.failure = some "failed to join thread #1: injected join fault"
  spawned : s.spawned = 1
  joined : s.joined = 0

/-- What a summary says of a spawn that was made to fail. -/
structure TellsSpawnFault (s : Summary) : Prop where
  status : s.status = .spawnFailed
  failure : s.failure = some "failed to spawn thread #1"
  spawned : s.spawned = 0
  joined : s.joined = 0

/-- What the summary of a run says whose join was to fail, beside that of the plain run: the same
if the system refused the thread, the time apart, and else that the fault happened. -/
def Unjoined (refusal : Option SystemError) (plain injected : Summary) : Prop :=
  match refusal with
  | some _ => injected.untimed = plain.untimed
  | none => injected.TellsJoinFault

/-- **A join fault shows in a summary exactly if there is a thread to be joined**, however that
thread ended. -/
theorem unjoined_ofOutcome (refusal : Option SystemError) (ending ending' : Option Panic)
    (elapsed elapsed' : Duration) :
    Unjoined refusal
      (Account.ofOutcome (Launcher.system.spawn .worker refusal) ending elapsed).summary
      (Account.ofOutcome ((Launcher.faulty .join).spawn .worker refusal) ending'
        elapsed').summary := by
  cases refusal with
  | some e => rfl
  | none =>
    have message : (RunFailure.injectedJoin .worker).message
        = "failed to join thread #1: injected join fault" := by
      decide +kernel
    exact ⟨rfl, congrArg some message, rfl, rfl⟩

theorem tellsSpawnFault_ofOutcome (refusal : Option SystemError) (ending : Option Panic)
    (elapsed : Duration) :
    (Account.ofOutcome ((Launcher.faulty .spawn).spawn .worker refusal) ending
      elapsed).summary.TellsSpawnFault := by
  have message : (RunFailure.injectedSpawn .worker).message = "failed to spawn thread #1" := by
    decide +kernel
  exact ⟨rfl, congrArg some message, rfl, rfl⟩

end Summary

/-- The plan of a run that injects a fault, if any, on a system that may refuse its thread. -/
def Plan.of (fault : Option Fault) (refusal : Option SystemError) (elapsed : Duration) : Plan :=
  ⟨fault, refusal, elapsed⟩

/-- The sink does not panic under a thread. -/
def Sink.CalmUnder (sink : Sink) (thread : Option String) : Prop :=
  ∀ seen call payload, sink seen thread call ≠ .panic payload

/-! ## The run with a fault, read off the plain one -/

namespace Duo

/-- A plain run as it would stand if its join were to fail. -/
def unjoined (d : Duo) (elapsed : Duration) : Duo where
  launcher := .faulty .join
  conditions := { d.conditions with elapsed }
  caller :=
    match d.caller with
    | .greeting g => .greeting g
    | .holding handle => .holding handle.failOnJoin
    | .returned _ =>
      .returned (.ofOutcome ((Launcher.faulty .join).spawn .worker d.conditions.refusal)
        (d.hired.bind Hired.ending) elapsed)
  hired := d.hired

/-- A plain run as it would stand if its spawn were to fail. -/
def unspawned (d : Duo) (conditions : Conditions) : Duo where
  launcher := .faulty .spawn
  conditions
  caller :=
    match d.caller with
    | .greeting g => .greeting g
    | _ =>
      .returned (.ofOutcome ((Launcher.faulty .spawn).spawn .worker conditions.refusal) none
        conditions.elapsed)

theorem unjoined_call? (d : Duo) (elapsed : Duration) (who : Speaker) :
    (d.unjoined elapsed).call? who = d.call? who := by
  obtain ⟨launcher, conditions, caller, hired⟩ := d
  cases who <;> cases caller <;> rfl

theorem unjoined_thread (d : Duo) (elapsed : Duration) (who : Speaker) :
    (d.unjoined elapsed).thread who = d.thread who := by
  cases who <;> rfl

theorem unspawned_call?_caller (d : Duo) (conditions : Conditions) :
    (d.unspawned conditions).call? .caller = d.call? .caller := by
  obtain ⟨launcher, before, caller, hired⟩ := d
  cases caller <;> rfl

namespace Staged

variable {refusal : Option SystemError} {elapsed : Duration} {first second : List Exchange}
  {d : Duo}

/-- A call that is answered leaves the two runs in step. -/
theorem unjoined_resume (staged : d.Staged (.of none refusal elapsed) first second) {who : Speaker}
    {call : SinkCall} (due : d.call? who = some call) (reply : Reply) (time : Duration) :
    (d.unjoined time).resume who reply = (d.resume who reply).unjoined time := by
  cases staged with
  | greeting said silent => cases who <;> rfl
  | holding ok said saying => cases who <;> rfl
  | returned ok said saying ended =>
    cases who with
    | caller => rfl
    | worker =>
      -- What was returned tells how the worker ended, so nothing may be left for it to do.
      simp [call?, ended] at due
  | refused refused said silent => cases who <;> rfl

/-- The spawn and the join leave the two runs in step. -/
theorem unjoined_goesOn (staged : d.Staged (.of none refusal elapsed) first second)
    (time : Duration) :
    (d.unjoined time).launch?.or (d.unjoined time).join? =
      (d.launch?.or d.join?).map (·.unjoined time) := by
  cases staged with
  | @greeting g said silent =>
    cases g with
    | finished => cases refusal <;> rfl
    | opening line => rfl
    | writing rest => rfl
    | flushing => rfl
    | panicked p => rfl
  | @holding handle g ok said saying =>
    cases refusal with
    | some e => cases ok
    | none =>
      cases ok
      cases idle : g.next.isNone <;> simp [launch?, join?, unjoined, idle]
      rfl
  | returned ok said saying ended => rfl
  | refused refused said silent => rfl

/-- A call of the caller that is answered leaves the two runs together, one of the worker leaves
the other run where it has returned. -/
theorem unspawned_resume (staged : d.Staged (.of none refusal elapsed) first second)
    {who : Speaker} {call : SinkCall} (due : d.call? who = some call) (reply : Reply)
    (conditions : Conditions) :
    (d.resume who reply).unspawned conditions =
      match who with
      | .caller => (d.unspawned conditions).resume .caller reply
      | .worker => d.unspawned conditions := by
  cases staged with
  | greeting said silent => cases who <;> rfl
  | holding ok said saying => cases who <;> rfl
  | returned ok said saying ended => cases who <;> rfl
  | refused refused said silent => cases who <;> rfl

/-- The runs part at the spawn, after which one has returned; the join of the other leaves it
there. -/
theorem unspawned_goesOn (staged : d.Staged (.of none refusal elapsed) first second)
    (conditions : Conditions) :
    (((d.unspawned conditions).launch?.or (d.unspawned conditions).join?).getD
        (d.unspawned conditions)) =
      ((d.launch?.or d.join?).getD d).unspawned conditions := by
  cases staged with
  | @greeting g said silent =>
    cases g with
    | finished => cases refusal <;> rfl
    | opening line => rfl
    | writing rest => rfl
    | flushing => rfl
    | panicked p => rfl
  | @holding handle g ok said saying =>
    cases idle : g.next.isNone <;> simp [launch?, join?, unspawned, idle]
  | returned ok said saying ended => rfl
  | refused refused said silent => rfl

end Staged

end Duo

/-! ## Both runs in front of a sink -/

namespace Recital

/-- A plain recital as it would stand if its join were to fail. -/
def unjoined (r : Recital) (elapsed : Duration) : Recital :=
  { r with duo := r.duo.unjoined elapsed }

/-- A plain recital as it would stand if its spawn were to fail. -/
def unspawned (r : Recital) (conditions : Conditions) : Recital where
  duo := r.duo.unspawned conditions
  seen := r.seen.filter (·.who = .caller)

/-- Lets a thread go on if it can. -/
def turn (r : Recital) (sink : Sink) (who : Speaker) : Recital :=
  (r.step sink who).getD r

theorem play_cons (r : Recital) (sink : Sink) (who : Speaker) (schedule : List Speaker) :
    r.play sink (who :: schedule) = (r.turn sink who).play sink schedule := rfl

theorem turn_of_none {r : Recital} {sink : Sink} {who : Speaker}
    (stuck : r.step sink who = none) : r.turn sink who = r := by
  rw [turn, stuck, Option.getD_none]

theorem turn_of_some {r after : Recital} {sink : Sink} {who : Speaker}
    (goes : r.step sink who = some after) : r.turn sink who = after := by
  rw [turn, goes, Option.getD_some]

theorem turn_due {r : Recital} {who : Speaker} {call : SinkCall}
    (due : r.duo.call? who = some call) (sink : Sink) :
    r.turn sink who = r.call sink who call := by
  simp [turn, step, due]

theorem turn_caller {r : Recital} (idle : r.duo.call? .caller = none) (sink : Sink) :
    r.turn sink .caller = { r with duo := (r.duo.launch?.or r.duo.join?).getD r.duo } := by
  simp only [turn, step, idle]
  cases r.duo.launch?.or r.duo.join? <;> rfl

theorem turn_worker {r : Recital} (idle : r.duo.call? .worker = none) (sink : Sink) :
    r.turn sink .worker = r := by
  simp [turn, step, idle]

namespace Ordered

/-- What can be read off a recital stays so if a turn of what is read off is read off the turn. -/
theorem play_read {p : Plan} {sink : Sink} (read : Recital → Recital)
    (reads : ∀ {first second r}, r.Ordered p sink first second → ∀ who,
      (read r).turn sink who = read (r.turn sink who))
    {first second : List Exchange} {r : Recital} (ordered : r.Ordered p sink first second)
    (schedule : List Speaker) : (read r).play sink schedule = read (r.play sink schedule) := by
  induction schedule generalizing r first second with
  | nil => rfl
  | cons who schedule ih =>
    obtain ⟨_, _, next⟩ := ordered.play [who]
    rw [play_cons, play_cons, reads ordered who]
    exact ih next

variable {refusal : Option SystemError} {elapsed : Duration} {sink : Sink}
  {first second : List Exchange} {r : Recital}

/-- **One turn with a fault at the join** is the plain one with the mark. -/
theorem unjoined_turn (ordered : r.Ordered (.of none refusal elapsed) sink first second)
    (time : Duration) (who : Speaker) :
    (r.unjoined time).turn sink who = (r.turn sink who).unjoined time := by
  have same : (r.unjoined time).duo.call? who = r.duo.call? who := r.duo.unjoined_call? time who
  cases due : r.duo.call? who with
  | some call =>
    rw [turn_due due, turn_due (same.trans due)]
    simp only [Recital.call, Recital.unjoined, Recital.exchanges, Duo.unjoined_thread,
      ordered.staged.unjoined_resume due]
  | none =>
    cases who with
    | worker => rw [turn_worker due, turn_worker (same.trans due)]
    | caller =>
      rw [turn_caller due, turn_caller (same.trans due)]
      simp only [Recital.unjoined, ordered.staged.unjoined_goesOn time, Option.getD_map]

/-- The sink has seen nothing but the caller's greeting as long as the caller has calls to make. -/
theorem silent_of_due {p : Plan} (ordered : r.Ordered p sink first second) {call : SinkCall}
    (due : r.duo.call? .caller = some call) : r.seen.filter (·.who = .caller) = r.seen := by
  obtain ⟨-, silent, -⟩ := ordered.staged.resume due (.done 0)
  rw [ordered.seen, silent rfl]
  simp [inTurn, List.filter_map, Function.comp_def]

/-- **One turn with a fault at the spawn** is the plain one without what the worker does. -/
theorem unspawned_turn (ordered : r.Ordered (.of none refusal elapsed) sink first second)
    (conditions : Conditions) (who : Speaker) :
    (r.unspawned conditions).turn sink who = (r.turn sink who).unspawned conditions := by
  cases who with
  | caller =>
    have same : (r.unspawned conditions).duo.call? .caller = r.duo.call? .caller :=
      r.duo.unspawned_call?_caller conditions
    cases due : r.duo.call? .caller with
    | some call =>
      rw [turn_due due, turn_due (same.trans due)]
      have resumed := fun reply => ordered.staged.unspawned_resume due reply conditions
      simp only [Recital.call, Recital.unspawned, Recital.exchanges, Duo.thread,
        ordered.silent_of_due due, resumed, List.filter_append]
      simp
    | none =>
      rw [turn_caller due, turn_caller (same.trans due)]
      simp only [Recital.unspawned, ordered.staged.unspawned_goesOn conditions]
  | worker =>
    rw [turn_worker rfl]
    cases due : r.duo.call? .worker with
    | some call =>
      rw [turn_due due]
      have resumed := fun reply => ordered.staged.unspawned_resume due reply conditions
      simp only [Recital.call, Recital.unspawned, resumed, List.filter_append]
      simp
    | none => rw [turn_worker due]

end Ordered

/-- **What is to be said of a join fault**: the sink sees what it would have seen, the run returns
when it would have returned, and the summary tells the fault if there was a thread to be joined. -/
structure JoinFaultTold (refusal : Option SystemError) (plain injected : Recital) : Prop where
  seen : injected.seen = plain.seen
  returns : injected.duo.account?.isSome = plain.duo.account?.isSome
  summaries : ∀ a b, plain.duo.account? = some a → injected.duo.account? = some b →
    Summary.Unjoined refusal a.summary b.summary

/-- **What is to be said of a spawn fault**: the sink sees the caller's greeting and nothing else,
there never is a worker, and the run returns when the plain one has asked for its worker, with a
summary that tells the fault. -/
structure SpawnFaultTold (plain injected : Recital) : Prop where
  seen : injected.seen = plain.seen.filter (·.who = .caller)
  greets : ∃ g, Greeter.Goes (.start .caller) injected.exchanges g ∧
    (injected.duo.account?.isSome → g = .finished)
  hired : injected.duo.hired = none
  returns : injected.duo.account?.isSome = plain.duo.hasLaunched
  summary : ∀ c, injected.duo.account? = some c → c.summary.TellsSpawnFault

namespace Ordered

variable {p : Plan} {refusal : Option SystemError} {elapsed : Duration} {sink : Sink}
  {first second : List Exchange} {r : Recital}

theorem joinFaultTold (ordered : r.Ordered (.of none refusal elapsed) sink first second)
    (time : Duration) : JoinFaultTold refusal r (r.unjoined time) := by
  obtain ⟨duo, seen⟩ := r
  have staged : duo.Staged (.of none refusal elapsed) first second := ordered.staged
  refine ⟨rfl, ?_, ?_⟩
  · cases staged <;> rfl
  · rintro a b isPlain isInjected
    cases staged with
    | greeting said silent => cases isPlain
    | holding ok said saying => cases isPlain
    | returned ok said saying ended =>
      cases isPlain
      cases isInjected
      exact Summary.unjoined_ofOutcome refusal _ _ elapsed time
    | refused refused said silent =>
      cases isPlain
      cases isInjected
      exact Summary.unjoined_ofOutcome refusal _ _ elapsed time

theorem spawnFaultTold (ordered : r.Ordered (.of none refusal elapsed) sink first second)
    (conditions : Conditions) : SpawnFaultTold r (r.unspawned conditions) := by
  obtain ⟨duo, seen⟩ := r
  have staged : duo.Staged (.of none refusal elapsed) first second := ordered.staged
  have exchanges : (Recital.unspawned ⟨duo, seen⟩ conditions).exchanges = first := by
    have isSeen : seen = inTurn first second := ordered.seen
    simp [Recital.exchanges, Recital.unspawned, isSeen, inTurn, List.filter_map,
      Function.comp_def]
  have tells := Summary.tellsSpawnFault_ofOutcome conditions.refusal none conditions.elapsed
  refine ⟨rfl, ?_, rfl, ?_, ?_⟩
  · rw [exchanges]
    cases staged with
    | greeting said silent => exact ⟨_, said, fun returned => by cases returned⟩
    | holding ok said saying => exact ⟨_, said, fun _ => rfl⟩
    | returned ok said saying ended => exact ⟨_, said, fun _ => rfl⟩
    | refused refused said silent => exact ⟨_, said, fun _ => rfl⟩
  · cases staged <;> rfl
  · intro c returned
    cases staged with
    | greeting said silent => cases returned
    | holding ok said saying =>
      cases returned
      exact tells
    | returned ok said saying ended =>
      cases returned
      exact tells
    | refused refused said silent =>
      cases returned
      exact tells

/-- At most one of the two threads can go on. -/
theorem eq_of_step (ordered : r.Ordered p sink first second) {one other : Speaker}
    (goes : (r.step sink one).isSome) (goesToo : (r.step sink other).isSome) : one = other := by
  obtain ⟨duo, seen⟩ := r
  have staged : duo.Staged p first second := ordered.staged
  have apart : ((Recital.mk duo seen).step sink .worker).isSome →
      ((Recital.mk duo seen).step sink .caller).isSome → False := by
    intro worker caller
    cases staged with
    | greeting said silent => cases worker
    | @holding handle g ok said saying =>
      cases due : g.next with
      | none => simp [Recital.step, Duo.call?, due] at worker
      | some call => simp [Recital.step, Duo.call?, Duo.launch?, Duo.join?, due] at caller
    | returned ok said saying ended => cases caller
    | refused refused said silent => cases caller
  cases one <;> cases other
  · rfl
  · exact (apart goesToo goes).elim
  · exact (apart goes goesToo).elim
  · rfl

/-- A step that is open is one that every way to an end has to take first. -/
theorem play_of_step (ordered : r.Ordered p sink first second) {who : Speaker} {after : Recital}
    (goes : r.step sink who = some after) {schedule : List Speaker}
    (ended : ∀ who, (r.play sink schedule).step sink who = none) :
    ∃ later, after.play sink later = r.play sink schedule := by
  -- Turns of a thread that is stuck change nothing, and the first that does is the open step.
  induction schedule with
  | nil =>
    have stuck : r.step sink who = none := ended who
    rw [goes] at stuck
    cases stuck
  | cons next schedule ih =>
    cases moved : r.step sink next with
    | none =>
      rw [play_cons, turn_of_none moved] at ended ⊢
      exact ih ended
    | some reached =>
      obtain rfl : next = who := ordered.eq_of_step (by simp [moved]) (by simp [goes])
      refine ⟨schedule, ?_⟩
      rw [play_cons, turn_of_some goes]

/-- Whatever turns the threads have taken, an end that the run can come to is still ahead. -/
theorem play_to_end (ordered : r.Ordered p sink first second) {end_ : List Speaker}
    (ended : ∀ who, (r.play sink end_).step sink who = none) (schedule : List Speaker) :
    ∃ later, (r.play sink schedule).play sink later = r.play sink end_ := by
  induction schedule generalizing r first second end_ with
  | nil => exact ⟨end_, rfl⟩
  | cons who schedule ih =>
    cases moved : r.step sink who with
    | none =>
      rw [play_cons, turn_of_none moved]
      exact ih ordered ended
    | some after =>
      obtain ⟨_, _, next⟩ := ordered.step moved
      obtain ⟨later, same⟩ := ordered.play_of_step moved ended
      rw [play_cons, turn_of_some moved, ← same]
      exact ih next (by rwa [same])

/-- **A run returns in one way only**, in whatever order its threads take their turns. -/
theorem returned_unique (ordered : r.Ordered p sink first second) {one other : List Speaker}
    (returned : (r.play sink one).duo.account?.isSome)
    (returnedToo : (r.play sink other).duo.account?.isSome) :
    r.play sink one = r.play sink other := by
  obtain ⟨_, _, here⟩ := ordered.play one
  obtain ⟨_, _, there⟩ := ordered.play other
  obtain ⟨noCall, noLaunch, noJoin⟩ := there.staged.idle returnedToo
  have stuck (who : Speaker) : (r.play sink other).step sink who = none := by
    cases who <;> simp [Recital.step, noCall, noLaunch, noJoin]
  obtain ⟨later, same⟩ := ordered.play_to_end stuck one
  rw [← same, here.play_returned returned]

/-- A run in front of a sink that does not panic under its caller goes on until it has returned. -/
theorem goesOn_of_calm (ordered : r.Ordered p sink first second)
    (calm : sink.CalmUnder (some Speaker.callingThread)) (open_ : r.duo.account? = none) :
    ∃ who, (r.step sink who).isSome := by
  rcases ordered.progress open_ with goes | ⟨payload, panicked⟩
  · exact goes
  · exfalso
    have passed : first.findSome? Exchange.panic? = some payload := by
      rw [← ordered.panic?_eq, Duo.panic?, panicked]
      rfl
    obtain ⟨x, isFirst, isPanic⟩ := List.exists_of_findSome?_eq_some passed
    obtain ⟨before, later, rfl⟩ := List.append_of_mem isFirst
    have answered : x.reply = (sink before x.thread x.call).reply x.call := by
      apply ordered.answered before x
      rw [ordered.exchanges_eq, List.append_assoc]
      simp
    rw [ordered.callers x isFirst] at answered
    rw [Exchange.panic?, answered, Action.panic?_reply (calm before x.call)] at isPanic
    cases isPanic

end Ordered

end Recital

/-! ## Both runs in front of a script -/

namespace Plan

/-- The run of a plan in front of a script. -/
def perform (p : Plan) (script : Script) : Round :=
  Round.perform ⟨{ current := p.launcher }, script⟩ p.conditions

variable {script : Script}

/-- A run in front of a script that does not panic under its caller gets past the greeting. -/
theorem perform_calm (p : Plan) (calm : script.caller.Calm) :
    let greeted := script.greet (some Speaker.callingThread) .caller
    let rest := Round.second ⟨{ current := p.launcher }, greeted.2.2⟩ p.conditions
    p.perform script =
      { rest with occurrences := greeted.2.1.map .exchange ++ rest.occurrences } := by
  simp only [perform, Round.perform, Script.greet_caller calm]

/-- Such a run returns. -/
theorem result_perform (p : Plan) (calm : script.caller.Calm) :
    ∃ ending, (p.perform script).result
      = .ok (.ofOutcome p.launched ending p.conditions.elapsed) := by
  obtain ⟨_, _, result, -, -⟩ := Round.second_spec
    ⟨{ current := p.launcher }, (script.greet (some Speaker.callingThread) .caller).2.2⟩
    p.conditions
  rw [perform_calm p calm]
  exact ⟨_, result⟩

theorem exchanges_perform_join (calm : script.caller.Calm) (refusal : Option SystemError)
    (elapsed elapsed' : Duration) :
    ((Plan.of (some .join) refusal elapsed').perform script).exchanges =
      ((Plan.of none refusal elapsed).perform script).exchanges := by
  rw [perform_calm _ calm, perform_calm _ calm]
  simp only [Round.exchanges, List.filterMap_append]
  cases refusal <;> rfl

theorem exchanges_perform_spawn (calm : script.caller.Calm) (refusal refusal' : Option SystemError)
    (elapsed elapsed' : Duration) :
    ((Plan.of (some .spawn) refusal' elapsed').perform script).exchanges =
      ((Plan.of none refusal elapsed).perform script).said .caller := by
  obtain ⟨rest, occurrences, -⟩ := Round.second_spec
    ⟨{ current := .system }, (script.greet (some Speaker.callingThread) .caller).2.2⟩
    ⟨refusal, elapsed⟩
  have plain := perform_calm (.of none refusal elapsed) calm
  have said := (Round.said_append _ _ (congrArg Round.occurrences plain) fun x starts => by
    cases occurrences ▸ starts).1
  rw [said, perform_calm _ calm]
  simp [Round.exchanges, List.filterMap_append, List.filterMap_map, Round.second, launcher,
    Launcher.stock, Launcher.spawn, Plan.of, Except.toOption]

end Plan

/-! ## Faults -/

namespace Recital

/-- **An injected fault does what it is meant to do and nothing else.** Let a plain run, one whose
join is to fail and one whose spawn is to fail go on in front of the same sink by the same
schedule. The sink sees the same of the first two, byte by byte; they return together, and where
the system refused the thread their summaries differ in the time alone, while else the one with the
fault tells it, whatever became of the worker. Of the third the sink sees the caller's greeting;
it never has a worker, returns as the plain one gets past its spawn, and tells its fault, whatever
the system would have done. What a run returns does not depend on the schedule, and if the sink
does not panic under the caller, a run that has not returned can go on. In front of a script that
does not, all three return. -/
theorem faults_told (refusal other : Option SystemError) (time time₁ time₂ : Duration)
    (sink : Sink) :
    let now (p : Plan) (schedule : List Speaker) := (start p).play sink schedule
    let plain := Plan.of none refusal time
    let unjoined := Plan.of (some .join) refusal time₁
    let unspawned := Plan.of (some .spawn) other time₂
    (∀ schedule, JoinFaultTold refusal (now plain schedule) (now unjoined schedule)) ∧
    (∀ schedule, SpawnFaultTold (now plain schedule) (now unspawned schedule)) ∧
    (∀ p one two, (now p one).duo.account?.isSome → (now p two).duo.account?.isSome →
      now p one = now p two) ∧
    (sink.CalmUnder (some Speaker.callingThread) → ∀ p schedule,
      (now p schedule).duo.account? = none → ∃ who, ((now p schedule).step sink who).isSome) ∧
    ∀ script : Script, script.caller.Calm → ∃ a b c,
      (plain.perform script).result = .ok a ∧ (unjoined.perform script).result = .ok b ∧
      (unspawned.perform script).result = .ok c ∧
      (unjoined.perform script).exchanges = (plain.perform script).exchanges ∧
      (unspawned.perform script).exchanges = (plain.perform script).said .caller ∧
      Summary.Unjoined refusal a.summary b.summary ∧ c.summary.TellsSpawnFault := by
  intro now plain unjoined unspawned
  refine ⟨?_, ?_, ?_, ?_, ?_⟩
  · intro schedule
    obtain ⟨_, _, ordered⟩ := (Ordered.initial plain sink).play schedule
    have same : now unjoined schedule = (now plain schedule).unjoined time₁ :=
      (Ordered.initial plain sink).play_read (·.unjoined time₁)
        (fun ordered who => ordered.unjoined_turn time₁ who) schedule
    rw [same]
    exact ordered.joinFaultTold time₁
  · intro schedule
    obtain ⟨_, _, ordered⟩ := (Ordered.initial plain sink).play schedule
    have same : now unspawned schedule = (now plain schedule).unspawned ⟨other, time₂⟩ :=
      (Ordered.initial plain sink).play_read (·.unspawned ⟨other, time₂⟩)
        (fun ordered who => ordered.unspawned_turn ⟨other, time₂⟩ who) schedule
    rw [same]
    exact ordered.spawnFaultTold ⟨other, time₂⟩
  · intro p one two returned returnedToo
    exact (Ordered.initial p sink).returned_unique returned returnedToo
  · intro calm p schedule open_
    obtain ⟨_, _, ordered⟩ := (Ordered.initial p sink).play schedule
    exact ordered.goesOn_of_calm calm open_
  · intro script calm
    obtain ⟨_, isPlain⟩ := plain.result_perform calm
    obtain ⟨_, isUnjoined⟩ := unjoined.result_perform calm
    obtain ⟨_, isUnspawned⟩ := unspawned.result_perform calm
    exact ⟨_, _, _, isPlain, isUnjoined, isUnspawned,
      Plan.exchanges_perform_join calm refusal time time₁,
      Plan.exchanges_perform_spawn calm refusal other time time₂,
      Summary.unjoined_ofOutcome refusal _ _ time time₁,
      Summary.tellsSpawnFault_ofOutcome other _ time₂⟩

end Recital

end Duet
