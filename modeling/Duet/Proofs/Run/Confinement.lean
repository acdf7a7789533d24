import Duet.Proofs.Run.Indifference
import Duet.Proofs.Run.Precedence

/-!
# Where the panics of a sink end up

A sink may panic at any call of either greeting. Under the caller nothing catches it: the call that
performs the run ends there, before a worker is asked for. Under the worker it ends that thread, and
the join turns it into the failure of the run. Nothing of a run outlives it but what its sink has
seen, so a call that follows a panic starts from there and from nothing else.

**A run passes on the panics of the caller's greeting and no others**, and **a panic of the worker's
greeting is told by the summary** (`Recital.panics_confined`), whatever the sink and whatever the
order in which the two threads take their turns.
-/

namespace Duet

/-! ## Panics of a greeting -/

namespace Greeter

/-- A greeting stands in a panic exactly if one of its calls was answered with it. -/
theorem Goes.panic?_eq {who : Speaker} {xs : List Exchange} {g : Greeter}
    (goes : Goes (start who) xs g) : g.panic? = xs.findSome? Exchange.panic? := by
  induction goes with
  | nil => rfl
  | call before due reply ih =>
    rw [resume_panic? due, List.findSome?_append, ← ih, panic?_of_next due, Option.none_or]
    simp only [List.findSome?_cons, Exchange.panic?, List.findSome?_nil]
    cases reply.panic? <;> rfl

/-- The panic that ends a greeting is the answer to its last call. -/
theorem Goes.last_panicked {who : Speaker} {xs : List Exchange} {payload : Panic}
    (goes : Goes (start who) xs (.panicked payload)) :
    ∃ front last, xs = front ++ [last] ∧ last.reply = .panicked payload ∧
      ∀ x ∈ front, x.panic? = none := by
  generalize ends : Greeter.panicked payload = g at goes
  cases goes with
  | nil => cases ends
  | @call front g thread call before due reply =>
    have isPanic : reply.panic? = some payload := by
      rw [← resume_panic? due, ← ends]
      rfl
    have calm : front.findSome? Exchange.panic? = none := by
      rw [← before.panic?_eq, panic?_of_next due]
    refine ⟨front, _, rfl, ?_, List.findSome?_eq_none_iff.1 calm⟩
    cases reply with
    | panicked p => exact congrArg Reply.panicked (Option.some.inj isPanic)
    | done count => cases isPanic
    | failed e => cases isPanic

theorem eq_panicked {g : Greeter} {payload : Panic} (panicked : g.panic? = some payload) :
    g = .panicked payload := by
  cases g with
  | panicked p => exact congrArg Greeter.panicked (Option.some.inj panicked)
  | opening line => cases panicked
  | writing rest => cases panicked
  | flushing => cases panicked
  | finished => cases panicked

end Greeter

/-! ## Runs and their sinks -/

/-- The panic that the call which performs the run has ended in. -/
def Duo.panic? (d : Duo) : Option Panic :=
  match d.caller with
  | .greeting g => g.panic?
  | _ => none

/-- Whether the launcher was asked for a worker. -/
def Duo.hasLaunched (d : Duo) : Bool :=
  match d.caller with
  | .greeting _ => false
  | _ => true

/-- A sink that has seen exchanges already. -/
def Sink.after (sink : Sink) (before : List Exchange) : Sink :=
  fun seen => sink (before ++ seen)

namespace Recital

/-- The exchanges of a speaker's greeting so far. -/
def said (r : Recital) (who : Speaker) : List Exchange :=
  (r.seen.filter (·.who = who)).map (·.exchange)

/-- The panic in which the sink ended a speaker's greeting. -/
def panicOf (r : Recital) (who : Speaker) : Option Panic :=
  (r.said who).findSome? Exchange.panic?

/-- The recital with something that the sink had seen before. -/
def behind (r : Recital) (before : List Part) : Recital :=
  { r with seen := before ++ r.seen }

/-- The next run in front of the same sink. -/
def next (r : Recital) (p : Plan) : Recital :=
  (start p).behind r.seen

/-- **A run that was ended by a panic under its caller**: it has not asked for a worker, the worker
has made no call, and the caller none after the one that was answered with the panic. -/
structure EndedBy (r : Recital) (payload : Panic) : Prop where
  unlaunched : r.duo.hasLaunched = false
  silent : r.said .worker = []
  last : ∃ front last, r.said .caller = front ++ [last] ∧ last.reply = .panicked payload ∧
    ∀ x ∈ front, x.panic? = none

/-! ## What a sink has seen before -/

@[simp] theorem behind_duo (r : Recital) (before : List Part) : (r.behind before).duo = r.duo := rfl

theorem step_behind (r : Recital) (before : List Part) (sink : Sink) (who : Speaker) :
    (r.behind before).step sink who =
      (r.step (sink.after (before.map (·.exchange))) who).map (·.behind before) := by
  have call (made : SinkCall) : (r.behind before).call sink who made =
      (r.call (sink.after (before.map (·.exchange))) who made).behind before := by
    simp [Recital.call, behind, exchanges, Sink.after]
  unfold step
  rw [behind_duo]
  cases due : r.duo.call? who with
  | some made => simp [call]
  | none =>
    cases who with
    | caller => simp [behind, Function.comp_def]
    | worker => rfl

/-- **A run does not see what its sink saw before**: it goes as it would in front of a fresh sink
that answers like this one from here on. -/
theorem play_behind (r : Recital) (before : List Part) (sink : Sink) (schedule : List Speaker) :
    (r.behind before).play sink schedule =
      (r.play (sink.after (before.map (·.exchange))) schedule).behind before := by
  induction schedule generalizing r with
  | nil => rfl
  | cons who schedule ih =>
    simp only [play, List.foldl_cons, step_behind]
    cases r.step (sink.after (before.map (·.exchange))) who with
    | none => exact ih r
    | some after => exact ih after

/-! ## Panics and the stages of a run -/

namespace Ordered

variable {p : Plan} {sink : Sink} {first second : List Exchange} {r : Recital}

theorem said_caller (ordered : r.Ordered p sink first second) : r.said .caller = first := by
  simp [said, ordered.seen, inTurn, List.filter_map, Function.comp_def]

theorem said_worker (ordered : r.Ordered p sink first second) : r.said .worker = second := by
  simp [said, ordered.seen, inTurn, List.filter_map, Function.comp_def]

/-- A run passes on a panic exactly if the caller's greeting met one. -/
theorem panic?_eq (ordered : r.Ordered p sink first second) :
    r.duo.panic? = first.findSome? Exchange.panic? := by
  obtain ⟨duo, seen⟩ := r
  have staged : duo.Staged p first second := ordered.staged
  cases staged with
  | greeting said silent => exact said.panic?_eq
  | holding ok said saying => exact said.panic?_eq
  | returned ok said saying ended => exact said.panic?_eq
  | refused refused said silent => exact said.panic?_eq

/-- A run that passes on a panic stands where the caller's greeting met it. -/
theorem panicked (ordered : r.Ordered p sink first second) {payload : Panic}
    (panicked : r.duo.panic? = some payload) :
    r.duo = ⟨p.launcher, p.conditions, .greeting (.panicked payload), none⟩ ∧
      Greeter.Goes (.start .caller) first (.panicked payload) ∧ second = [] := by
  obtain ⟨duo, seen⟩ := r
  have staged : duo.Staged p first second := ordered.staged
  cases staged with
  | @greeting g said silent =>
    obtain rfl := Greeter.eq_panicked panicked
    exact ⟨rfl, said, silent⟩
  | holding ok said saying => cases panicked
  | returned ok said saying ended => cases panicked
  | refused refused said silent => cases panicked

/-- A run that a panic has ended stays as it is. -/
theorem play_panicked (ordered : r.Ordered p sink first second) {payload : Panic}
    (panicked : r.duo.panic? = some payload) (later : List Speaker) : r.play sink later = r := by
  obtain ⟨stands, -, -⟩ := ordered.panicked panicked
  have stuck (who : Speaker) : r.step sink who = none := by
    cases who <;> simp [Recital.step, stands, Duo.call?, Duo.launch?, Duo.join?, Greeter.next]
  induction later with
  | nil => rfl
  | cons who later ih =>
    rw [Recital.play, List.foldl_cons, stuck who]
    exact ih

theorem endedBy (ordered : r.Ordered p sink first second) {payload : Panic}
    (panicked : r.duo.panic? = some payload) : r.EndedBy payload := by
  obtain ⟨stands, said, silent⟩ := ordered.panicked panicked
  refine ⟨by rw [stands]; rfl, by rw [ordered.said_worker, silent], ?_⟩
  rw [ordered.said_caller]
  exact said.last_panicked

/-- A run whose worker was ended by a panic returns with the caller's next step, unless it has
returned already: the join has nothing more to wait for. -/
theorem account_of_panicked (ordered : r.Ordered p sink first second) {payload : Panic}
    (panicked : second.findSome? Exchange.panic? = some payload) :
    (r.play sink [.caller]).duo.account?
        = some (.ofOutcome p.launched (some payload) p.conditions.elapsed) ∧
      ∃ handle, p.launched = .ok handle := by
  obtain ⟨duo, seen⟩ := r
  have staged : duo.Staged p first second := ordered.staged
  cases staged with
  | greeting said silent =>
    rw [silent] at panicked
    cases panicked
  | refused refused said silent =>
    rw [silent] at panicked
    cases panicked
  | @holding handle g ok said saying =>
    rw [← saying.panic?_eq] at panicked
    obtain rfl := Greeter.eq_panicked panicked
    refine ⟨?_, handle, ok⟩
    rw [ok]
    rfl
  | @returned handle g ok said saying ended =>
    rw [← saying.panic?_eq] at panicked
    refine ⟨?_, handle, ok⟩
    rw [ordered.play_returned rfl, ← panicked]
    rfl

end Ordered

end Recital

/-! ## The summary of a run whose worker panicked -/

/-- **What a summary says of a worker that ended in a panic**: the worker was started and could not
be joined, because of the panic, or because of the fault that was injected. -/
structure Summary.TellsPanic (s : Summary) (fault : Option Fault) (payload : Panic) : Prop where
  status : s.status = .joinFailed
  spawned : s.spawned = 1
  joined : s.joined = 0
  failure : s.failure = some ("failed to join thread #1: " ++
    match fault, payload with
    | some .join, _ => "injected join fault"
    | _, .text t => "thread panicked: " ++ t
    | _, .other => "thread panicked")

theorem Plan.tellsPanic {p : Plan} {handle : Handle} (ok : p.launched = .ok handle)
    (payload : Panic) (elapsed : Duration) :
    (Account.ofOutcome p.launched (some payload) elapsed).summary.TellsPanic p.fault payload := by
  have start : "failed to join thread #" ++ Speaker.worker.numeral ++ ": "
      = "failed to join thread #1: " := by
    decide +kernel
  obtain ⟨fault, refusal, time⟩ := p
  rcases fault with _ | _ | _
  · cases refusal with
    | some e => cases ok
    | none =>
      cases payload <;> exact ⟨rfl, rfl, rfl, congrArg (fun text => some (text ++ _)) start⟩
  · cases ok
  · cases refusal with
    | some e => cases ok
    | none => exact ⟨rfl, rfl, rfl, congrArg (fun text => some (text ++ _)) start⟩

/-! ## What is left of a script -/

namespace Script

/-- The script without the action that an exchange has used up. -/
def after (s : Script) (x : Exchange) : Script :=
  if isCalling x.thread then { s with caller := s.caller.after x.call }
  else { s with others := s.others.after x.call }

/-- The script without the actions that exchanges have used up. -/
def afterAll (s : Script) (xs : List Exchange) : Script :=
  xs.foldl after s

theorem afterAll_calling (s : Script) {xs : List Exchange}
    (calling : ∀ x ∈ xs, isCalling x.thread = true) :
    s.afterAll xs = { s with caller := s.caller.afterAll xs } := by
  induction xs generalizing s with
  | nil => rfl
  | cons x xs ih =>
    rw [afterAll, List.foldl_cons, after, if_pos (calling x List.mem_cons_self)]
    exact ih _ fun y isLater => calling y (List.mem_cons_of_mem _ isLater)

theorem afterAll_others (s : Script) {xs : List Exchange}
    (others : ∀ x ∈ xs, isCalling x.thread = false) :
    s.afterAll xs = { s with others := s.others.afterAll xs } := by
  induction xs generalizing s with
  | nil => rfl
  | cons x xs ih =>
    rw [afterAll, List.foldl_cons, after, if_neg (by simp [others x])]
    exact ih _ fun y isLater => others y (List.mem_cons_of_mem _ isLater)

end Script

namespace Greeter

/-- A greeting makes all its calls on its thread and uses up one action for each. -/
theorem perform_uses (thread : Option String) (g : Greeter) (q : Queues) :
    (∀ x ∈ (g.perform thread q).exchanges, x.thread = thread) ∧
      (g.perform thread q).queues = q.afterAll (g.perform thread q).exchanges := by
  fun_induction perform thread g q with
  | case1 g q idle => exact ⟨by simp, rfl⟩
  | case2 g q call due reply rest ih =>
    refine ⟨?_, ih.2⟩
    intro x isExchange
    rcases List.mem_cons.1 isExchange with rfl | isLater
    · rfl
    · exact ih.1 x isLater

end Greeter

/-- A greeting leaves a script without the actions of its own exchanges. -/
theorem Script.greet_uses (s : Script) (thread : Option String) (who : Speaker) :
    (s.greet thread who).2.2 = s.afterAll (s.greet thread who).2.1 := by
  unfold greet
  split
  · next calling =>
    obtain ⟨onThread, queues⟩ := Greeter.perform_uses thread (.start who) s.caller
    rw [afterAll_calling s fun x isExchange => by simp [isCalling, onThread x isExchange, calling],
      ← queues]
  · next other =>
    obtain ⟨onThread, queues⟩ := Greeter.perform_uses thread (.start who) s.others
    rw [afterAll_others s fun x isExchange => by simp [isCalling, onThread x isExchange, other],
      ← queues]

namespace Round

theorem work_uses (worker : Worker) (script : Script) :
    (work worker script).2.2 = script.afterAll (work worker script).1 := by
  unfold work
  split
  · exact script.greet_uses worker.thread .worker
  · rfl

theorem second_uses (stage : Stage) (conditions : Conditions) :
    (second stage conditions).stage.script =
      stage.script.afterAll (second stage conditions).exchanges := by
  simp only [second]
  split
  · rfl
  · next worker created =>
    simp only [exchanges, List.filterMap_cons, List.filterMap_map, Function.comp_def,
      List.filterMap_some]
    exact work_uses worker stage.script

/-- **A run leaves a script without the actions of its exchanges**, however it ends. -/
theorem perform_uses (stage : Stage) (conditions : Conditions) :
    (perform stage conditions).stage.script =
      stage.script.afterAll (perform stage conditions).exchanges := by
  have caller := stage.script.greet_uses (some Speaker.callingThread) .caller
  simp only [perform]
  split
  · simp only [exchanges, List.filterMap_map, Function.comp_def, List.filterMap_some]
    exact caller
  · simp only [exchanges, List.filterMap_append, List.filterMap_map, Function.comp_def,
      List.filterMap_some, Script.afterAll, List.foldl_append]
    rw [second_uses]
    exact congrArg (Script.afterAll · _) caller

/-- Runs that go on with one launcher start from what the first has left of the script. -/
theorem performAll_cons (launcher : Launcher) (script : Script) (conditions : Conditions)
    (more : List Conditions) :
    let round := perform ⟨{ current := launcher }, script⟩ conditions
    performAll ⟨{ current := launcher }, script⟩ (conditions :: more) =
      round :: performAll ⟨{ current := launcher }, script.afterAll round.exchanges⟩ more := by
  intro round
  have roster : round.stage.roster = { current := launcher } := by
    rw [(perform_foretold ⟨{ current := launcher }, script⟩ conditions).2]
    split <;> rfl
  have uses : round.stage.script = script.afterAll round.exchanges := perform_uses _ _
  show round :: performAll round.stage more = _
  rw [← roster, ← uses]

end Round

/-! ## Confinement -/

namespace Recital

/-- In front of a script, a run that a panic ends under its caller is the one that `Round.perform`
tells. -/
theorem Ordered.told_panicked {p : Plan} {script : Script} {first second : List Exchange}
    {r : Recital} (ordered : r.Ordered p script.sink first second) {payload : Panic}
    (panicked : r.duo.panic? = some payload) :
    let round := Round.perform ⟨{ current := p.launcher }, script⟩ p.conditions
    round.result = .error payload ∧ round.launches = [] ∧ round.exchanges = first ++ second := by
  obtain ⟨-, said, rfl⟩ := ordered.panicked panicked
  have greeted : script.greet (some Speaker.callingThread) .caller
      = (.panicked payload, first, { script with caller := script.caller.afterAll first }) := by
    rw [Script.greet, if_pos rfl,
      said.perform_ended rfl script.caller ordered.callers ordered.follows_caller]
  have ending : (Greeter.panicked payload).panic? = some payload := rfl
  simp [Round.perform, greeted, ending, Round.launches, Round.exchanges, List.filterMap_map]

/-- **Panics are confined.** Let a run go on in front of any sink, its two threads taking turns in
any order. The call passes on a panic exactly if the sink panicked under the caller, and then the
same one; no worker was asked for, nothing was called after it, and nothing ever will be. A panic
under the worker is not passed on: with the caller's next step the run has returned, with a summary
that tells it. What follows in front of the same sink goes as if the sink had seen the exchanges of
this run and nothing else had happened. In front of a script, all this is what `Round.perform`
tells, and the runs after it start from the script without the actions of these exchanges. -/
theorem panics_confined (p : Plan) (sink : Sink) (schedule : List Speaker) :
    let now := (start p).play sink schedule
    now.duo.panic? = now.panicOf .caller ∧
      (∀ payload, now.panicOf .caller = some payload →
        now.EndedBy payload ∧ ∀ later, now.play sink later = now) ∧
      (∀ payload, now.panicOf .worker = some payload →
        now.duo.panic? = none ∧
        ∃ account, (now.play sink [.caller]).duo.account? = some account ∧
          account.summary.TellsPanic p.fault payload) ∧
      (∀ q later, (now.next q).play sink later
        = ((start q).play (sink.after now.exchanges) later).behind now.seen) ∧
      ∀ script, sink = Script.sink script →
        let round := Round.perform ⟨{ current := p.launcher }, script⟩ p.conditions
        (∀ payload, now.duo.panic? = some payload →
          round.result = .error payload ∧ round.launches = []) ∧
        (∀ account, now.duo.account? = some account → round.result = .ok account) ∧
        (now.duo.panic?.isSome ∨ now.duo.account?.isSome →
          round.exchanges = now.exchanges ∧
          ∀ more, Round.performAll ⟨{ current := p.launcher }, script⟩ (p.conditions :: more)
            = round :: Round.performAll
                ⟨{ current := p.launcher }, script.afterAll now.exchanges⟩ more) := by
  intro now
  obtain ⟨first, second, ordered⟩ := (Ordered.initial p sink).play schedule
  have ordered : now.Ordered p sink first second := ordered
  have caller : now.duo.panic? = now.panicOf .caller := by
    rw [panicOf, ordered.said_caller, ordered.panic?_eq]
  refine ⟨caller, ?_, ?_, fun q later => play_behind (start q) now.seen sink later, ?_⟩
  · intro payload panicked
    rw [← caller] at panicked
    exact ⟨ordered.endedBy panicked, ordered.play_panicked panicked⟩
  · intro payload panicked
    rw [panicOf, ordered.said_worker] at panicked
    obtain ⟨account, handle, ok⟩ := ordered.account_of_panicked panicked
    refine ⟨?_, _, account, Plan.tellsPanic ok payload p.conditions.elapsed⟩
    cases passed : now.duo.panic? with
    | none => rfl
    | some passedOn =>
      obtain ⟨-, -, rfl⟩ := ordered.panicked passed
      cases panicked
  · rintro script rfl round
    have exchanges (ended : now.duo.panic?.isSome ∨ now.duo.account?.isSome) :
        round.exchanges = now.exchanges := by
      rw [ordered.exchanges_eq]
      rcases ended with passed | done
      · obtain ⟨payload, passed⟩ := Option.isSome_iff_exists.1 passed
        exact (ordered.told_panicked passed).2.2
      · obtain ⟨account, done⟩ := Option.isSome_iff_exists.1 done
        exact (ordered.told done).2
    refine ⟨?_, fun account done => (ordered.told done).1, fun ended => ⟨exchanges ended, ?_⟩⟩
    · intro payload passed
      obtain ⟨result, launches, -⟩ := ordered.told_panicked passed
      exact ⟨result, launches⟩
    · intro more
      rw [← exchanges ended]
      exact Round.performAll_cons p.launcher script p.conditions more

end Recital

end Duet
