import Duet.Log.Filter
import Duet.Proofs.Run.Accounting
import Duet.Proofs.Run.Precedence

/-!
# The log of a run

Events are logged at three places: after the spawn and the join, inside the join, and at the end of
a run, on each of the ways it can go. The summary of the run is put together beside them. What the
summary stands for is written down here as a log of its own (`Summary.log`), from its counters, its
failure and its status alone, but for the number of the handle.

**The events of a run are those that its summary stands for, in that order**, and a handle is never
let go of unjoined (`Account.Logged`). This holds of every run in a row on a sink that does not panic
under the caller, with any launchers, and of every run that returns, with its two threads in any
order and on any sink (`Round.performAll_logged`). **A level shows those of them that are severe
enough and no others**, in their order, over a whole row of runs.

What this does not establish: when the events are written. A log that cannot be written is the
tool's concern.
-/

namespace Duet

/-! ## The log of a summary -/

/-- The events that a summary stands for, if the handle of the run had the number of `who`. -/
def Summary.log (s : Summary) (who : Speaker) : List Log.Event :=
  (if s.spawned = 1 then
    [⟨.debug, .runner, "spawned worker thread #1"⟩,
      ⟨.trace, .spawner, "thread #" ++ who.numeral ++ " terminated"⟩]
  else []) ++
  (if s.joined = 1 then [⟨.debug, .runner, "joined worker thread #1"⟩] else []) ++
  (s.failure.map (⟨.warn, .runner, ·⟩)).toList ++
  [⟨.debug, .runner, "run finished: " ++ s.status.display⟩]

/-- The message of an event says that a handle is let go of, whatever its number. -/
def Log.Event.OnDrop (e : Log.Event) : Prop :=
  ∃ num, e.message = "joining thread #" ++ num ++ " on drop"

/-- **The account of a run agrees with its log**: the events are those that the summary stands for,
there is one for the join or one for the failure and not both, and none for a handle that is let go
of. -/
structure Account.Logged (a : Account) (launched : Except RunFailure Handle) : Prop where
  events : ∃ who, (∀ handle, launched = .ok handle → handle.who = who) ∧
    a.events = a.summary.log who
  counted : a.summary.joined ≤ a.summary.spawned ∧ a.summary.spawned ≤ 1
  either : a.summary.joined = 1 ↔ a.summary.failure = none
  held : ∀ e ∈ a.events, ¬ e.OnDrop

/-! ## Messages -/

theorem Log.Event.not_onDrop {e : Log.Event}
    (other : e.message.toList.take 7 ≠ "joining".toList) : ¬ e.OnDrop := by
  rintro ⟨num, same⟩
  apply other
  rw [same]
  simp

/-- Every failure is told in words that begin in the same way. -/
theorem RunFailure.message_eq (e : RunFailure) : ∃ rest, e.message = "failed " ++ rest := by
  cases e with
  | spawn who source =>
    have start : "failed to spawn thread #" = "failed " ++ "to spawn thread #" := by decide +kernel
    refine ⟨"to spawn thread #" ++ who.numeral, ?_⟩
    show "failed to spawn thread #" ++ who.numeral = _
    rw [start, String.append_assoc]
  | join who reason =>
    have start : "failed to join thread #" = "failed " ++ "to join thread #" := by decide +kernel
    refine ⟨"to join thread #" ++ who.numeral ++ ": " ++ reason, ?_⟩
    show "failed to join thread #" ++ who.numeral ++ ": " ++ reason = _
    rw [start]
    simp only [String.append_assoc]

/-- No event that a summary stands for says that a handle is let go of. -/
theorem Summary.not_onDrop_of_mem_log {s : Summary} {who : Speaker}
    (failed : ∀ text, s.failure = some text → ∃ e : RunFailure, text = e.message) {e : Log.Event}
    (isIn : e ∈ s.log who) : ¬ e.OnDrop := by
  apply Log.Event.not_onDrop
  simp only [log, List.mem_append, List.mem_ite_nil_right, Option.mem_toList, Option.map_eq_some_iff,
    List.mem_cons, List.not_mem_nil, or_false] at isIn
  rcases isIn with ((⟨_, rfl | rfl⟩ | ⟨_, rfl⟩) | ⟨text, isFailure, rfl⟩) | rfl
  · decide
  · simp
  · decide
  · obtain ⟨failure, rfl⟩ := failed text isFailure
    obtain ⟨rest, shape⟩ := failure.message_eq
    rw [shape]
    simp
  · simp

namespace Account

/-! ## The three ways a run can go -/

theorem events_ofOutcome_error (failure : RunFailure) (ending : Option Panic) (elapsed : Duration)
    (who : Speaker) :
    (ofOutcome (.error failure) ending elapsed).events =
      (ofOutcome (.error failure) ending elapsed).summary.log who :=
  rfl

theorem events_ofOutcome_ok (handle : Handle) (ending : Option Panic) (elapsed : Duration) :
    (ofOutcome (.ok handle) ending elapsed).events =
      (ofOutcome (.ok handle) ending elapsed).summary.log handle.who := by
  have spawned : note .debug ("spawned worker thread #" ++ Speaker.worker.numeral) =
      ⟨.debug, .runner, "spawned worker thread #1"⟩ := by decide +kernel
  have joined : note .debug ("joined worker thread #" ++ Speaker.worker.numeral) =
      ⟨.debug, .runner, "joined worker thread #1"⟩ := by decide +kernel
  cases end_ : handle.join ending with
  | error failure =>
    simp only [ofOutcome, end_, holding, spawned]
    rfl
  | ok done =>
    simp only [ofOutcome, end_, holding, spawned, joined]
    rfl

/-- **What a run comes to agrees with its log**, whatever its spawn gave and its worker did. -/
theorem logged_ofOutcome (launched : Except RunFailure Handle) (ending : Option Panic)
    (elapsed : Duration) : (ofOutcome launched ending elapsed).Logged launched := by
  have tells := Summary.tells_ofOutcome launched ending elapsed
  have coherent := tells.coherent
  have events : ∃ who, (∀ handle, launched = .ok handle → handle.who = who) ∧
      (ofOutcome launched ending elapsed).events =
        (ofOutcome launched ending elapsed).summary.log who := by
    cases launched with
    | error failure =>
      refine ⟨.worker, ?_, events_ofOutcome_error failure ending elapsed .worker⟩
      intro handle isOk
      cases isOk
    | ok handle =>
      refine ⟨handle.who, ?_, events_ofOutcome_ok handle ending elapsed⟩
      intro other isOk
      cases isOk
      rfl
  have failed (text : String) (isFailure : (ofOutcome launched ending elapsed).summary.failure =
      some text) : ∃ e : RunFailure, text = e.message := by
    rcases tells.cases with ⟨e, -, -, failure, -⟩ | ⟨_, e, -, -, -, failure, -⟩ |
      ⟨_, -, -, -, failure, -⟩
    · exact ⟨e, Option.some.inj (isFailure.symm.trans failure)⟩
    · exact ⟨e, Option.some.inj (isFailure.symm.trans failure)⟩
    · rw [failure] at isFailure
      cases isFailure
  refine ⟨events, ⟨coherent.joined_le, coherent.spawned_le⟩, coherent.failure_iff.symm, ?_⟩
  intro e isIn
  obtain ⟨who, -, isLog⟩ := events
  rw [isLog] at isIn
  exact Summary.not_onDrop_of_mem_log failed isIn

end Account

/-! ## Runs with their threads in any order -/

/-- **A run that is accounted for as it goes**: the handle it holds is the one it was given, and what
it returns is what its spawn and some end of its worker come to. -/
inductive Duo.Accounted (launcher : Launcher) (conditions : Conditions) : Duo → Prop where
  | greeting (g : Greeter) (hired : Option Hired) :
    Accounted launcher conditions ⟨launcher, conditions, .greeting g, hired⟩
  | holding {handle : Handle} (ok : launcher.spawn .worker conditions.refusal = .ok handle)
    (hired : Option Hired) :
    Accounted launcher conditions ⟨launcher, conditions, .holding handle, hired⟩
  | returned (ending : Option Panic) (hired : Option Hired) :
    Accounted launcher conditions ⟨launcher, conditions, .returned
      (.ofOutcome (launcher.spawn .worker conditions.refusal) ending conditions.elapsed), hired⟩

namespace Duo.Accounted

variable {launcher : Launcher} {conditions : Conditions} {d after : Duo}

/-- The reply to a call, whatever it is, does not come into the account. -/
theorem resume (accounted : d.Accounted launcher conditions) (who : Speaker) (reply : Reply) :
    (d.resume who reply).Accounted launcher conditions := by
  cases who with
  | caller =>
    cases accounted with
    | greeting g hired => exact .greeting _ hired
    | holding ok hired => exact .holding ok hired
    | returned ending hired => exact .returned ending hired
  | worker =>
    cases accounted with
    | greeting g hired => exact .greeting g _
    | holding ok hired => exact .holding ok _
    | returned ending hired => exact .returned ending _

theorem launch (accounted : d.Accounted launcher conditions) (step : d.launch? = some after) :
    after.Accounted launcher conditions := by
  cases accounted with
  | greeting g hired =>
    cases g with
    | finished =>
      simp only [launch?] at step
      split at step
      · next failure refused =>
        cases step
        rw [← refused]
        exact .returned none hired
      · next handle ok =>
        cases step
        exact .holding ok _
    | _ => cases step
  | holding ok hired => cases step
  | returned ending hired => cases step

theorem join (accounted : d.Accounted launcher conditions) (step : d.join? = some after) :
    after.Accounted launcher conditions := by
  cases accounted with
  | greeting g hired => cases step
  | returned ending hired => cases step
  | holding ok hired =>
    simp only [join?] at step
    rw [← ok] at step
    split at step
    · cases step
      exact .returned none _
    · split at step
      · cases step
        exact .returned _ _
      · cases step

theorem logged (accounted : d.Accounted launcher conditions) {account : Account}
    (returned : d.account? = some account) :
    account.Logged (launcher.spawn .worker conditions.refusal) := by
  cases accounted with
  | greeting g hired => cases returned
  | holding ok hired => cases returned
  | returned ending hired =>
    cases returned
    exact Account.logged_ofOutcome _ ending conditions.elapsed

end Duo.Accounted

namespace Recital

/-- **One step** of either thread, on any sink. -/
theorem accounted_step {r after : Recital} {launcher : Launcher} {conditions : Conditions}
    (accounted : r.duo.Accounted launcher conditions) {sink : Sink} {who : Speaker}
    (step : r.step sink who = some after) : after.duo.Accounted launcher conditions := by
  unfold Recital.step at step
  split at step
  · cases step
    exact accounted.resume _ _
  · cases step
  · obtain ⟨duo, stepped, rfl⟩ := Option.map_eq_some_iff.1 step
    rcases Option.or_eq_some_iff.1 stepped with launched | ⟨-, joined⟩
    · exact accounted.launch launched
    · exact accounted.join joined

/-- **Every schedule** on any sink. -/
theorem accounted_play {r : Recital} {launcher : Launcher} {conditions : Conditions}
    (accounted : r.duo.Accounted launcher conditions) (sink : Sink) (schedule : List Speaker) :
    (r.play sink schedule).duo.Accounted launcher conditions := by
  induction schedule generalizing r with
  | nil => exact accounted
  | cons who schedule ih =>
    have next : ((r.step sink who).getD r).duo.Accounted launcher conditions := by
      cases stepped : r.step sink who with
      | none => exact accounted
      | some after => exact accounted_step accounted stepped
    exact ih next

end Recital

/-! ## What a level shows -/

namespace Log

/-- A level shows the events that are at least as severe as it names, in their order. -/
theorem Level.event_show (level : Level) (insideRun : Bool) (events : List Event) :
    (level.show insideRun events).map (·.event) =
      events.filter fun e => e.severity.rank ≤ level.rank := by
  simp [Level.show, Level.admits, Function.comp_def]

/-- A filter that was given a level and nothing else lets through what the level does. -/
theorem Filter.show?_withLevel (level : Level) (insideRun : Bool) (e : Event) :
    (({} : Filter).withLevel level).show? insideRun e =
      if level.admits e.severity then some ⟨e, insideRun && level.admits runSpanSeverity⟩
      else none := by
  have reach : ∀ s : Severity, ¬ s.rank ≤ 0 := by
    intro s
    cases s <;> simp [Severity.rank]
  have enters : (({} : Filter).withLevel level).entersRun = level.admits runSpanSeverity := by
    simp [entersRun, withLevel, add, ceiling, place, decides, Directive.isStatic,
      Directive.isDynamic, Directive.matchesRunStatically, Directive.matchesTarget, Level.admits]
  have lets : (({} : Filter).withLevel level).admits insideRun e = level.admits e.severity := by
    simp [admits, runCeiling, withLevel, add, place, decides, Directive.isStatic,
      Directive.isDynamic, Directive.matchesEvent, Directive.matchesTarget, reach]
  rw [show?, enters, lets]

theorem Filter.filterMap_show? (level : Level) (insideRun : Bool) (events : List Event) :
    events.filterMap ((({} : Filter).withLevel level).show? insideRun) =
      level.show insideRun events := by
  induction events with
  | nil => rfl
  | cons e events ih =>
    rw [List.filterMap_cons, show?_withLevel, ih]
    by_cases admitted : level.admits e.severity = true
    · simp [Level.show, admitted]
    · simp [Level.show, admitted]

end Log

/-! ## Runs in a row -/

namespace Round

/-- **One run** on a sink that does not panic under the caller returns, and agrees with its log. -/
theorem logged_perform {stage : Stage} (calm : stage.script.caller.Calm) (conditions : Conditions) :
    ∃ account, (perform stage conditions).result = .ok account ∧
      account.Logged (stage.roster.current.spawn .worker conditions.refusal) := by
  have noPanic := Script.greet_caller calm
  simp only [perform, noPanic]
  obtain ⟨rest, -, result, -⟩ := second_spec
    { stage with script := (stage.script.greet (some Speaker.callingThread) .caller).2.2 }
    conditions
  exact ⟨_, result, Account.logged_ofOutcome _ _ _⟩

theorem forall_logged_performAll {stage : Stage} (calm : stage.script.caller.Calm)
    (conditions : List Conditions) :
    List.Forall₂ (fun call round => ∃ account, round.result = .ok account ∧
        account.Logged (call.1.spawn .worker call.2.refusal))
      (stage.roster.serve conditions) (performAll stage conditions) := by
  induction conditions generalizing stage with
  | nil => exact .nil
  | cons first more ih =>
    obtain ⟨-, roster, calmAfter⟩ := reported_perform calm first
    refine .cons (logged_perform calm first) ?_
    rw [← roster]
    exact ih calmAfter

/-- What a level shows of runs in a row are those of all their events that are severe enough. -/
theorem event_show_flatMap (level : Log.Level) (rounds : List Round) :
    (rounds.flatMap fun round => level.show true round.events).map (·.event) =
      (rounds.flatMap events).filter fun e => e.severity.rank ≤ level.rank := by
  rw [List.map_flatMap, List.filter_flatMap]
  congr 1
  funext round
  exact level.event_show true round.events

/-- **The log of every run agrees with its summary.** Let runs follow one another on a sink that
does not panic under the calling thread, with any launchers: each returns, and its events are those
that its summary stands for. The same is true of a run that returns with its threads in any order
and on any sink. A level shows of all the events those that are severe enough, and so does the
tool's filter when it is given that level. -/
theorem performAll_logged {stage : Stage} (calm : stage.script.caller.Calm)
    (conditions : List Conditions) :
    List.Forall₂ (fun call round => ∃ account, round.result = .ok account ∧
        account.Logged (call.1.spawn .worker call.2.refusal))
      (stage.roster.serve conditions) (performAll stage conditions) ∧
    (∀ (launcher : Launcher) (given : Conditions) (sink : Sink) (schedule : List Speaker)
        (account : Account),
      (Recital.play { duo := { launcher, conditions := given } } sink schedule).duo.account? =
          some account →
        account.Logged (launcher.spawn .worker given.refusal)) ∧
    ∀ level : Log.Level,
      ((performAll stage conditions).flatMap fun round => level.show true round.events).map
          (·.event) =
        ((performAll stage conditions).flatMap events).filter
          (fun e => e.severity.rank ≤ level.rank) ∧
      ((performAll stage conditions).flatMap fun round =>
          round.events.filterMap ((({} : Log.Filter).withLevel level).show? true)) =
        (performAll stage conditions).flatMap fun round => level.show true round.events := by
  refine ⟨forall_logged_performAll calm conditions, ?_, ?_⟩
  · intro launcher given sink schedule account returned
    have accounted := Recital.accounted_play (r := { duo := { launcher, conditions := given } })
      (.greeting (.start .caller) none) sink schedule
    exact accounted.logged returned
  · intro level
    refine ⟨event_show_flatMap level _, ?_⟩
    congr 1
    funext round
    exact Log.Filter.filterMap_show? level true round.events

/-- Four runs on a sink that refuses the callers' writes and panics under the last worker: a handle
of another number, a spawn that fails, a join that fails on purpose and one that reports the
panic. -/
theorem performAll_logged_four :
    let script : Script :=
      { caller := { write := [.refuse .noSpace] }
        others := { write := [.succeed, .succeed, .panic .other] } }
    let roster := Roster.ofList
      [.ready .caller { thread := none }, .faulty .spawn, .faulty .join, .system]
    let rounds := performAll ⟨roster, script⟩ (List.replicate 4 {})
    script.caller.Calm ∧
    List.Forall₂ (fun call round => ∃ account, round.result = .ok account ∧
        account.Logged (call.1.spawn .worker call.2.refusal))
      (roster.serve (List.replicate 4 {})) rounds ∧
    (rounds.map fun round => round.events.map (·.message)) =
      [["spawned worker thread #1", "thread #0 terminated", "joined worker thread #1",
          "run finished: success (0)"],
        ["failed to spawn thread #1", "run finished: spawn failed (1)"],
        ["spawned worker thread #1", "thread #1 terminated",
          "failed to join thread #1: injected join fault", "run finished: join failed (2)"],
        ["spawned worker thread #1", "thread #1 terminated",
          "failed to join thread #1: thread panicked", "run finished: join failed (2)"]] ∧
    (rounds.flatMap fun round => (Log.Level.upTo .warn).show true round.events).map (·.event) =
      [⟨.warn, .runner, "failed to spawn thread #1"⟩,
        ⟨.warn, .runner, "failed to join thread #1: injected join fault"⟩,
        ⟨.warn, .runner, "failed to join thread #1: thread panicked"⟩] := by
  intro script roster rounds
  have calm : script.caller.Calm := by
    intro call p
    cases call <;> simp [script, Queues.on]
  have logged := @performAll_logged ⟨roster, script⟩ calm (List.replicate 4 {})
  refine ⟨calm, logged.1, by decide +kernel, ?_⟩
  exact (logged.2.2 (.upTo .warn)).1.trans (by decide +kernel)

end Round

end Duet
