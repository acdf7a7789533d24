import Duet.Round
import Mathlib.Data.List.Forall2

/-!
# What a summary says of its run

A summary is put together at different points of a run: the counters as the worker is launched
and joined, the status, the code and the failure at the end, on each of the three ways there. Here
it is compared with what the run's two questions were answered: the spawn, and the join.

**Every run on a sink that does not panic under its caller returns a summary, and the summary
agrees with both answers**, whatever the launchers hand out (`Round.Reported`). That a status
tells at which step the run failed is true only of the launchers in stock: another one may answer
a spawn with the failure of a join (`Summary.Localized`).
-/

namespace Duet

/-! ## Panics of a sink -/

/-- The panic that a reply is. -/
def Reply.panic? : Reply → Option Panic
  | .panicked p => some p
  | _ => none

/-- The panic that a call was answered with. -/
def Exchange.panic? (x : Exchange) : Option Panic :=
  x.reply.panic?

theorem Action.panic?_reply {action : Action} (calm : ∀ payload, action ≠ .panic payload)
    (call : SinkCall) : (action.reply call).panic? = none := by
  cases action with
  | panic payload => exact absurd rfl (calm payload)
  | succeed => cases call <;> rfl
  | refuse e => cases call <;> rfl
  | take count => cases call <;> rfl

namespace Queues

/-- No action is a panic. -/
def Calm (q : Queues) : Prop :=
  ∀ call p, .panic p ∉ q.on call

theorem Calm.after {q : Queues} (calm : q.Calm) (made : SinkCall) : (q.after made).Calm := by
  intro call p isPanic
  apply calm call p
  cases made <;> cases call <;> first | exact isPanic | exact List.mem_of_mem_tail isPanic

theorem Calm.reply_panic? {q : Queues} (calm : q.Calm) (call : SinkCall) :
    (q.reply call).panic? = none := by
  apply Action.panic?_reply
  intro p isPanic
  cases queue : q.on call with
  | nil => simp [action, queue] at isPanic
  | cons first more =>
    obtain rfl : first = .panic p := by simpa [action, queue] using isPanic
    exact calm call p (by rw [queue]; exact List.mem_cons_self)

end Queues

namespace Greeter

theorem panic?_offering (rest : List UInt8) : (offering rest).panic? = none := by
  unfold offering
  split <;> rfl

/-- A greeting that was under way is ended by a panic exactly if the reply is one. -/
theorem resume_panic? {g : Greeter} {call : SinkCall} (due : g.next = some call) (r : Reply) :
    (g.resume r).panic? = r.panic? := by
  cases g with
  | finished => simp [next] at due
  | panicked p => simp [next] at due
  | flushing => cases r <;> rfl
  | opening line =>
    cases r with
    | panicked p => rfl
    | done count => exact panic?_offering line
    | failed e => exact panic?_offering line
  | writing rest =>
    cases r with
    | panicked p => rfl
    | done count =>
      rw [resume]
      split
      · rfl
      · exact panic?_offering _
    | failed e =>
      rw [resume]
      split <;> rfl

theorem panic?_of_next {g : Greeter} {call : SinkCall} (due : g.next = some call) :
    g.panic? = none := by
  cases g with
  | panicked p => simp [next] at due
  | _ => rfl

/-- A greeting ends in a panic exactly if a call of it was answered with one. -/
theorem perform_panic? (thread : Option String) (g : Greeter) (q : Queues) :
    (g.perform thread q).greeter.panic? =
      g.panic?.or ((g.perform thread q).exchanges.findSome? Exchange.panic?) := by
  fun_induction perform thread g q with
  | case1 g q idle => simp
  | case2 g q call due reply rest ih =>
    rw [ih, resume_panic? due, panic?_of_next due, Option.none_or, List.findSome?_cons]
    simp only [Exchange.panic?]
    cases reply.panic? <;> rfl

/-- A greeting to a sink that does not panic does not, and leaves the sink as calm. -/
theorem perform_calm (thread : Option String) (g : Greeter) {q : Queues} (calm : q.Calm)
    (fresh : g.panic? = none) :
    (g.perform thread q).greeter.panic? = none ∧ (g.perform thread q).queues.Calm := by
  fun_induction perform thread g q with
  | case1 g q idle => exact ⟨fresh, calm⟩
  | case2 g q call due reply rest ih =>
    exact ih (calm.after call) (by rw [resume_panic? due]; exact calm.reply_panic? call)

end Greeter

namespace Script

/-- The calling thread's greeting to a sink that does not panic under it. -/
theorem greet_caller {s : Script} (calm : s.caller.Calm) :
    (s.greet (some Speaker.callingThread) .caller).1.panic? = none := by
  rw [greet, if_pos rfl]
  exact (Greeter.perform_calm _ _ calm rfl).1

/-- No greeting, on whatever thread, makes a sink panic under its caller later. -/
theorem greet_calm {s : Script} (calm : s.caller.Calm) (thread : Option String) (who : Speaker) :
    (s.greet thread who).2.2.caller.Calm := by
  unfold greet
  split
  · exact (Greeter.perform_calm _ _ calm rfl).2
  · exact calm

theorem greet_panic? (s : Script) (thread : Option String) (who : Speaker) :
    (s.greet thread who).1.panic? = (s.greet thread who).2.1.findSome? Exchange.panic? := by
  unfold greet
  split
  · exact Greeter.perform_panic? thread (.start who) s.caller
  · exact Greeter.perform_panic? thread (.start who) s.others

end Script

/-! ## Summaries -/

namespace Summary

/-- What a summary has to say of a run whose spawn gave `launched` and whose worker, if there was
one, ended in `ending`. -/
structure Tells (s : Summary) (launched : Except RunFailure Handle) (ending : Option Panic) :
    Prop where
  code : s.code = s.status.code
  timed : s.elapsed.isSome
  refused : ∀ e, launched = .error e →
    s.status = e.status ∧ s.failure = some e.message ∧ s.spawned = 0 ∧ s.joined = 0
  unjoined : ∀ handle e, launched = .ok handle → handle.join ending = .error e →
    s.status = e.status ∧ s.failure = some e.message ∧ s.spawned = 1 ∧ s.joined = 0
  joined : ∀ handle, launched = .ok handle → handle.join ending = .ok () →
    s.status = .success ∧ s.failure = none ∧ s.spawned = 1 ∧ s.joined = 1

/-- The parts of a summary agree among themselves. -/
structure Coherent (s : Summary) : Prop where
  joined_le : s.joined ≤ s.spawned
  spawned_le : s.spawned ≤ 1
  success_iff : s.status = .success ↔ s.failure = none
  failure_iff : s.failure = none ↔ s.joined = 1

/-- The status tells at which of the two steps a run failed. -/
structure Localized (s : Summary) : Prop where
  spawnFailed_iff : s.status = .spawnFailed ↔ s.spawned = 0
  joinFailed_iff : s.status = .joinFailed ↔ s.spawned = 1 ∧ s.joined = 0

/-- **The account of a run agrees with its spawn and its join.** -/
theorem tells_ofOutcome (launched : Except RunFailure Handle) (ending : Option Panic)
    (elapsed : Duration) :
    (Account.ofOutcome launched ending elapsed).summary.Tells launched ending := by
  cases launched with
  | error e =>
    refine ⟨rfl, rfl, fun e' same => ?_, fun _ _ same => ?_, fun _ same => ?_⟩
    · cases same
      exact ⟨rfl, rfl, rfl, rfl⟩
    · cases same
    · cases same
  | ok handle =>
    rw [Account.ofOutcome]
    cases joined : handle.join ending with
    | error e =>
      refine ⟨rfl, rfl, fun _ same => ?_, fun other e' same fails => ?_, fun other same ok => ?_⟩
      · cases same
      · cases same
        rw [joined] at fails
        cases fails
        exact ⟨rfl, rfl, rfl, rfl⟩
      · cases same
        rw [joined] at ok
        cases ok
    | ok done =>
      refine ⟨rfl, rfl, fun _ same => ?_, fun other e' same fails => ?_, fun other same ok => ?_⟩
      · cases same
      · cases same
        rw [joined] at fails
        cases fails
      · exact ⟨rfl, rfl, rfl, rfl⟩

/-- The three ways a run can go, as a summary tells them. -/
theorem Tells.cases {s : Summary} {launched : Except RunFailure Handle} {ending : Option Panic}
    (tells : s.Tells launched ending) :
    (∃ e, launched = .error e ∧
      s.status = e.status ∧ s.failure = some e.message ∧ s.spawned = 0 ∧ s.joined = 0) ∨
    (∃ handle e, launched = .ok handle ∧ handle.join ending = .error e ∧
      s.status = e.status ∧ s.failure = some e.message ∧ s.spawned = 1 ∧ s.joined = 0) ∨
    (∃ handle, launched = .ok handle ∧ handle.join ending = .ok () ∧
      s.status = .success ∧ s.failure = none ∧ s.spawned = 1 ∧ s.joined = 1) := by
  cases launch : launched with
  | error e => exact .inl ⟨e, rfl, tells.refused e launch⟩
  | ok handle =>
    cases joined : handle.join ending with
    | error e => exact .inr (.inl ⟨handle, e, rfl, joined, tells.unjoined handle e launch joined⟩)
    | ok done => exact .inr (.inr ⟨handle, rfl, joined, tells.joined handle launch joined⟩)

theorem Tells.coherent {s : Summary} {launched : Except RunFailure Handle}
    {ending : Option Panic} (tells : s.Tells launched ending) : s.Coherent := by
  rcases tells.cases with ⟨e, -, status, failure, spawned, joined⟩ |
    ⟨_, e, -, -, status, failure, spawned, joined⟩ | ⟨_, -, -, status, failure, spawned, joined⟩
  · have fails := e.status_ne_success
    exact ⟨by simp [spawned, joined], by simp [spawned], by simp [status, failure, fails],
      by simp [failure, joined]⟩
  · have fails := e.status_ne_success
    exact ⟨by simp [spawned, joined], by simp [spawned], by simp [status, failure, fails],
      by simp [failure, joined]⟩
  · exact ⟨by simp [spawned, joined], by simp [spawned], by simp [status, failure],
      by simp [failure, joined]⟩

end Summary

/-! ## The launchers in stock -/

/-- A launcher in stock answers a spawn with the failure of a spawn only. -/
theorem Launcher.status_of_spawn {fault : Option Fault} {who : Speaker}
    {refusal : Option SystemError} {e : RunFailure}
    (refused : (stock fault).spawn who refusal = .error e) : e.status = .spawnFailed := by
  rcases fault with _ | _ | _ <;> cases refusal <;> cases refused <;> rfl

/-- A join fails with the failure of a join only. -/
theorem Handle.status_of_join {h : Handle} {ending : Option Panic} {e : RunFailure}
    (fails : h.join ending = .error e) : e.status = .joinFailed := by
  unfold join at fails
  split at fails
  · cases fails
    rfl
  · split at fails
    · next panic _ =>
      cases fails
      cases panic <;> rfl
    · cases fails

theorem Summary.Tells.localized {s : Summary} {launcher : Launcher} {who : Speaker}
    {refusal : Option SystemError} {ending : Option Panic}
    (tells : s.Tells (launcher.spawn who refusal) ending) {fault : Option Fault}
    (inStock : launcher = .stock fault) : s.Localized := by
  subst inStock
  rcases tells.cases with ⟨e, refused, status, -, spawned, joined⟩ |
    ⟨_, e, -, fails, status, -, spawned, joined⟩ | ⟨_, -, -, status, -, spawned, joined⟩
  · rw [Launcher.status_of_spawn refused] at status
    exact ⟨by simp [status, spawned], by simp [status, spawned]⟩
  · rw [Handle.status_of_join fails] at status
    exact ⟨by simp [status, spawned], by simp [status, spawned, joined]⟩
  · exact ⟨by simp [status, spawned], by simp [status, joined]⟩

/-! ## Runs in a row -/

/-- The launchers that a row of runs uses, each with what the world makes of its run. -/
def Roster.serve (r : Roster) : List Conditions → List (Launcher × Conditions)
  | [] => []
  | conditions :: more => (r.current, conditions) :: r.next.serve more

namespace Round

/-- How the worker of a run ended, seen from outside: its entry by a panic of the sink, if one of
its calls was answered with one, and the worker then in its own way. -/
def endingSeen (launched : Except RunFailure Handle) (exchanges : List Exchange) : Option Panic :=
  (launched.toOption.bind (·.inner)).bind (·.ending (exchanges.findSome? Exchange.panic?))

/-- **What is to be said of a run**: it returns a summary, having asked its launcher for a worker
once, after the caller's exchanges and before the worker's. The summary agrees with what the
launcher gave and with how the worker ended, and its parts agree among themselves; if the launcher
is one in stock, the status tells which step failed. -/
def Reported (launcher : Launcher) (conditions : Conditions) (round : Round) : Prop :=
  ∃ (account : Account) (first rest : List Exchange),
    round.result = .ok account ∧
    round.occurrences = first.map .exchange ++ .launch launcher :: rest.map .exchange ∧
    account.summary.Tells (launcher.spawn .worker conditions.refusal)
      (endingSeen (launcher.spawn .worker conditions.refusal) rest) ∧
    account.summary.Coherent ∧
    ∀ fault, launcher = .stock fault → account.summary.Localized

theorem work_ending (worker : Worker) (script : Script) :
    (work worker script).2.1 =
      worker.ending ((work worker script).1.findSome? Exchange.panic?) := by
  unfold work
  split
  · rw [← Script.greet_panic?]
  · rfl

theorem work_calm (worker : Worker) {script : Script} (calm : script.caller.Calm) :
    (work worker script).2.2.caller.Calm := by
  unfold work
  split
  · exact Script.greet_calm calm _ _
  · exact calm

/-- The part of a run after the caller's greeting: what is observed of it, what it comes to and
what it leaves. -/
theorem second_spec (stage : Stage) (conditions : Conditions) :
    let launched := stage.roster.current.spawn .worker conditions.refusal
    ∃ rest,
      (second stage conditions).occurrences
        = .launch stage.roster.current :: rest.map .exchange ∧
      (second stage conditions).result
        = .ok (.ofOutcome launched (endingSeen launched rest) conditions.elapsed) ∧
      (second stage conditions).stage.roster = stage.roster.next ∧
      (stage.script.caller.Calm → (second stage conditions).stage.script.caller.Calm) := by
  intro launched
  cases created : launched.toOption.bind (·.inner) with
  | none =>
    refine ⟨[], ?_, ?_, ?_, ?_⟩ <;> simp only [second, endingSeen, launched, created]
    · rfl
    · rfl
    · exact id
  | some worker =>
    refine ⟨(work worker stage.script).1, ?_, ?_, ?_, ?_⟩ <;>
      simp only [second, endingSeen, launched, created]
    · rw [Option.bind_some, work_ending]
    · exact fun calm => work_calm worker calm

/-- **One run** on a sink that does not panic under the caller is reported, and leaves such a
sink and the launchers that follow. -/
theorem reported_perform {stage : Stage} (calm : stage.script.caller.Calm)
    (conditions : Conditions) :
    Reported stage.roster.current conditions (perform stage conditions) ∧
      (perform stage conditions).stage.roster = stage.roster.next ∧
      (perform stage conditions).stage.script.caller.Calm := by
  have noPanic := Script.greet_caller calm
  have left := Script.greet_calm calm (some Speaker.callingThread) .caller
  simp only [perform, noPanic]
  obtain ⟨rest, occurrences, result, roster, calmAfter⟩ :=
    second_spec
      { stage with script := (stage.script.greet (some Speaker.callingThread) .caller).2.2 }
      conditions
  have tells := Summary.tells_ofOutcome (stage.roster.current.spawn .worker conditions.refusal)
    (endingSeen (stage.roster.current.spawn .worker conditions.refusal) rest) conditions.elapsed
  refine ⟨⟨_, _, rest, result, by rw [occurrences], tells, tells.coherent, ?_⟩, roster,
    calmAfter left⟩
  exact fun fault inStock => tells.localized inStock

/-- **Every summary agrees with its run.** Let runs follow one another on one sink that does not
panic under the calling thread, with any launchers: each returns a summary that agrees with what
the spawn and the join answered. -/
theorem performAll_reported {stage : Stage} (calm : stage.script.caller.Calm)
    (conditions : List Conditions) :
    List.Forall₂ (fun call round => Reported call.1 call.2 round)
      (stage.roster.serve conditions) (performAll stage conditions) := by
  induction conditions generalizing stage with
  | nil => exact .nil
  | cons first more ih =>
    obtain ⟨reported, roster, calmAfter⟩ := reported_perform calm first
    refine .cons reported ?_
    rw [← roster]
    exact ih calmAfter

/-- Six runs on a sink that takes the callers' lines in pieces, fails and panics under the
workers: one joined, one refused on purpose, one refused with the failure of a join, and three
whose join fails, by a panic under the sink, by one of the worker's own, and on purpose. -/
theorem performAll_reported_six :
    let script : Script :=
      { caller := { write := [.take 3, .refuse .noSpace, .take 0] }
        others := { write := [.succeed, .panic (.text "gone")], flush := [.refuse .noSpace] } }
    let roster := Roster.ofList
      [.system, .faulty .spawn, .refusing (.join .caller "early"), .system,
        .ready .caller { thread := none, runsEntry := false, after := some .other },
        .ready .worker { thread := none, after := some .other } true]
    script.caller.Calm ∧
      List.Forall₂ (fun call round => Reported call.1 call.2 round)
        (roster.serve (List.replicate 6 {}))
        (performAll ⟨roster, script⟩ (List.replicate 6 {})) := by
  intro script roster
  have calm : script.caller.Calm := by
    intro call p
    cases call <;> simp [script, Queues.on]
  exact ⟨calm, @performAll_reported ⟨roster, script⟩ calm _⟩

end Round

end Duet
