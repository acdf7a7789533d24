import Duet.Proofs.Run.WholeLines

/-!
# One run in front of any sink

A recital is a run under way with everything its sink has seen. The sink may answer as it likes:
take a part, take nothing, be interrupted, fail, or panic, and its answer may depend on all it has
seen, on the thread and on the call. A schedule lets one of the two threads go on at a time; a
thread that cannot go on stays where it is.

A greeting may take any number of calls here, so that nothing follows from a line being one write.
What keeps the two greetings apart is the order of the caller's steps: the worker is created after
the caller's last call, and waited for before the run returns (`Duo.Staged`).

**The sink sees the whole of the caller's greeting, which ends in a flush, and then the whole of
the worker's, if there is one; once the run has returned it sees nothing more**
(`Recital.seen_in_order`).
-/

namespace Duet

/-! ## Greetings by their exchanges -/

namespace Greeter

/-- A greeting gets from one place to another by making the calls that are due and going on with
the replies. -/
inductive Goes (from_ : Greeter) : List Exchange → Greeter → Prop where
  | nil : Goes from_ [] from_
  | call {exchanges : List Exchange} {g : Greeter} {thread : Option String} {call : SinkCall}
    (before : Goes from_ exchanges g) (due : g.next = some call) (reply : Reply) :
    Goes from_ (exchanges ++ [⟨thread, call, reply⟩]) (g.resume reply)

theorem offering_ne_finished (rest : List UInt8) : offering rest ≠ .finished := by
  unfold offering
  split <;> simp

/-- Only the reply to a flush finishes a greeting. -/
theorem next_of_resume_finished {g : Greeter} {call : SinkCall} {reply : Reply}
    (due : g.next = some call) (ends : g.resume reply = .finished) : call = .flush := by
  cases g with
  | finished => simp [next] at due
  | panicked p => simp [next] at due
  | flushing =>
    obtain rfl : SinkCall.flush = call := by simpa [next] using due
    rfl
  | opening line =>
    cases reply with
    | panicked p => simp [resume] at ends
    | done count => exact absurd ends (offering_ne_finished line)
    | failed e => exact absurd ends (offering_ne_finished line)
  | writing rest =>
    cases reply with
    | panicked p => simp [resume] at ends
    | done count =>
      rw [resume] at ends
      split at ends
      · cases ends
      · exact absurd ends (offering_ne_finished _)
    | failed e =>
      rw [resume] at ends
      split at ends <;> cases ends

/-- A greeting that is finished ended in a flush. -/
theorem Goes.endsInFlush {who : Speaker} {exchanges : List Exchange}
    (said : Goes (start who) exchanges .finished) :
    ∃ front last, exchanges = front ++ [last] ∧ last.call = .flush := by
  generalize ends : Greeter.finished = g at said
  cases said with
  | nil => cases ends
  | call before due reply => exact ⟨_, _, rfl, next_of_resume_finished due ends.symm⟩

end Greeter

/-! ## Recitals -/

/-- A sink: what it does at a call of a thread, given the exchanges before. -/
abbrev Sink := List Exchange → (thread : Option String) → SinkCall → Action

/-- Exchanges in which every reply is what the sink does, given the exchanges before. -/
def Sink.Answered (sink : Sink) (seen : List Exchange) : Prop :=
  ∀ before x, before ++ [x] <+: seen → x.reply = (sink before x.thread x.call).reply x.call

/-- An exchange, and whose greeting it belongs to. -/
structure Part where
  who : Speaker
  exchange : Exchange
  deriving DecidableEq, Repr

/-- The thread that a speaker of a run is on. -/
def Duo.thread (d : Duo) : Speaker → Option String
  | .caller => some Speaker.callingThread
  | .worker => d.hired.bind (·.worker.thread)

/-- A run under way, and what its sink has seen of it. -/
structure Recital where
  duo : Duo
  seen : List Part := []
  deriving DecidableEq, Repr

namespace Recital

/-- A run at its start. -/
def start (p : Plan) : Recital where
  duo := { launcher := p.launcher, conditions := p.conditions }

/-- The exchanges with the sink so far. -/
def exchanges (r : Recital) : List Exchange :=
  r.seen.map (·.exchange)

/-- A thread makes a call and goes on with the sink's reply. -/
def call (r : Recital) (sink : Sink) (who : Speaker) (call : SinkCall) : Recital :=
  let thread := r.duo.thread who
  let reply := (sink r.exchanges thread call).reply call
  { duo := r.duo.resume who reply, seen := r.seen ++ [⟨who, thread, call, reply⟩] }

/-- The next step of a thread, if it can go on: a call if one is due, else the spawn or the
join. -/
def step (r : Recital) (sink : Sink) (who : Speaker) : Option Recital :=
  match r.duo.call? who, who with
  | some call, _ => some (r.call sink who call)
  | none, .worker => none
  | none, .caller => (r.duo.launch?.or r.duo.join?).map fun duo => { r with duo }

/-- Lets the threads go on in the order of a schedule. -/
def play (r : Recital) (sink : Sink) (schedule : List Speaker) : Recital :=
  schedule.foldl (fun r who => (r.step sink who).getD r) r

end Recital

/-! ## The stages of a run -/

/-- **The stages of a run**, given the exchanges of the caller and those of the worker: the worker
has none until the caller's greeting is finished, and the run has not returned until the worker's
has nothing left to call. -/
inductive Duo.Staged (p : Plan) (first second : List Exchange) : Duo → Prop where
  | greeting {g : Greeter} (said : Greeter.Goes (.start .caller) first g) (silent : second = []) :
    Staged p first second ⟨p.launcher, p.conditions, .greeting g, none⟩
  | holding {handle : Handle} {g : Greeter} (ok : p.launched = .ok handle)
    (said : Greeter.Goes (.start .caller) first .finished)
    (saying : Greeter.Goes (.start .worker) second g) :
    Staged p first second ⟨p.launcher, p.conditions, .holding handle,
      some ⟨{ thread := some Speaker.worker.threadName }, g⟩⟩
  | returned {handle : Handle} {g : Greeter} (ok : p.launched = .ok handle)
    (said : Greeter.Goes (.start .caller) first .finished)
    (saying : Greeter.Goes (.start .worker) second g) (ended : g.next = none) :
    Staged p first second ⟨p.launcher, p.conditions,
      .returned (.ofOutcome p.launched g.panic? p.conditions.elapsed),
      some ⟨{ thread := some Speaker.worker.threadName }, g⟩⟩
  | refused {failure : RunFailure} (refused : p.launched = .error failure)
    (said : Greeter.Goes (.start .caller) first .finished) (silent : second = []) :
    Staged p first second ⟨p.launcher, p.conditions,
      .returned (.ofOutcome p.launched none p.conditions.elapsed), none⟩

/-- The exchanges of a greeting with one more, if it is that greeting's speaker who made it. -/
def Speaker.extend (who made : Speaker) (exchanges : List Exchange) (x : Exchange) :
    List Exchange :=
  if who = made then exchanges ++ [x] else exchanges

namespace Duo.Staged

variable {p : Plan} {first second : List Exchange} {d after : Duo}

/-- **A call of either thread, whatever the reply**, keeps a run in its stages; the exchange is
the last of its speaker's greeting, and no worker's exchange is followed by one of the caller. -/
theorem resume {who : Speaker} {call : SinkCall} (staged : d.Staged p first second)
    (due : d.call? who = some call) (reply : Reply) :
    (d.resume who reply).Staged p
        (who.extend .caller first ⟨d.thread who, call, reply⟩)
        (who.extend .worker second ⟨d.thread who, call, reply⟩) ∧
      (who = .caller → second = []) ∧
      d.thread who = some (match who with
        | .caller => Speaker.callingThread
        | .worker => Speaker.worker.threadName) := by
  cases staged with
  | greeting said silent =>
    cases who with
    | worker => simp [call?] at due
    | caller => exact ⟨.greeting (said.call due reply) silent, fun _ => silent, rfl⟩
  | holding ok said saying =>
    cases who with
    | caller => simp [call?] at due
    | worker =>
      refine ⟨.holding ok said (saying.call due reply), ?_, rfl⟩
      intro isCaller
      cases isCaller
  | returned ok said saying ended =>
    cases who with
    | caller => simp [call?] at due
    | worker => simp [call?, ended] at due
  | refused refused said silent => cases who <;> simp [call?] at due

/-- The spawn follows the caller's flush. -/
theorem launch (staged : d.Staged p first second) (step : d.launch? = some after) :
    after.Staged p first second := by
  cases staged with
  | @greeting g said silent =>
    cases g with
    | finished =>
      simp only [launch?] at step
      have spawned : Duo.launched ⟨p.launcher, p.conditions, .greeting .finished, none⟩
          = p.launched := rfl
      rw [spawned] at step
      cases launched : p.launched with
      | error failure =>
        rw [launched] at step
        cases step
        rw [← launched]
        exact .refused launched said silent
      | ok handle =>
        simp only [launched, Plan.launched_eq_ok launched] at step
        cases step
        subst silent
        exact .holding launched said .nil
    | opening line => simp [launch?] at step
    | writing rest => simp [launch?] at step
    | flushing => simp [launch?] at step
    | panicked panic => simp [launch?] at step
  | holding ok said saying => simp [launch?] at step
  | returned ok said saying ended => simp [launch?] at step
  | refused refused said silent => simp [launch?] at step

/-- The join follows the worker's last call. -/
theorem join (staged : d.Staged p first second) (step : d.join? = some after) :
    after.Staged p first second := by
  cases staged with
  | greeting said silent => simp [join?] at step
  | returned ok said saying ended => simp [join?] at step
  | refused refused said silent => simp [join?] at step
  | @holding handle g ok said saying =>
    simp only [join?] at step
    split at step
    · next idle =>
      cases step
      have ending : Hired.ending ⟨{ thread := some Speaker.worker.threadName }, g⟩ = g.panic? := by
        simp [Hired.ending, Worker.ending]
      rw [← ok, ending]
      exact .returned ok said saying (Option.isNone_iff_eq_none.1 idle)
    · cases step

/-- A run goes on until it has returned, unless the sink panicked under its caller. -/
theorem progress (staged : d.Staged p first second) (open_ : d.account? = none) :
    (∃ who call, d.call? who = some call) ∨
      (d.call? .caller = none ∧ (d.launch?.isSome ∨ d.join?.isSome)) ∨
      ∃ panic, d.caller = .greeting (.panicked panic) := by
  cases staged with
  | @greeting g said silent =>
    cases g with
    | finished =>
      refine .inr (.inl ⟨rfl, .inl ?_⟩)
      simp only [launch?]
      split <;> rfl
    | panicked panic => exact .inr (.inr ⟨panic, rfl⟩)
    | opening line => exact .inl ⟨.caller, _, rfl⟩
    | writing rest => exact .inl ⟨.caller, _, rfl⟩
    | flushing => exact .inl ⟨.caller, _, rfl⟩
  | @holding handle g ok said saying =>
    cases due : g.next with
    | some call => exact .inl ⟨.worker, call, due⟩
    | none => exact .inr (.inl ⟨rfl, .inr (by simp [join?, due])⟩)
  | returned ok said saying ended => simp [account?] at open_
  | refused refused said silent => simp [account?] at open_

/-- A run that has returned has nothing left to do on either thread. -/
theorem idle (staged : d.Staged p first second) (done : d.account?.isSome) :
    (∀ who, d.call? who = none) ∧ d.launch? = none ∧ d.join? = none := by
  cases staged with
  | greeting said silent => simp [account?] at done
  | holding ok said saying => simp [account?] at done
  | returned ok said saying ended =>
    refine ⟨fun who => ?_, rfl, rfl⟩
    cases who with
    | caller => rfl
    | worker => exact ended
  | refused refused said silent =>
    refine ⟨fun who => ?_, rfl, rfl⟩
    cases who <;> rfl

/-- Where the two greetings stand: the caller's is finished when the worker's has begun or the run
has returned, and then the worker's has come to its end. -/
theorem greetings (staged : d.Staged p first second) :
    ∃ caller worker, Greeter.Goes (.start .caller) first caller ∧
      Greeter.Goes (.start .worker) second worker ∧
      (second ≠ [] ∨ d.account?.isSome → caller = .finished) ∧
      (d.account?.isSome → if p.hires then worker.next = none else second = []) := by
  cases staged with
  | @greeting g said silent =>
    subst silent
    exact ⟨g, _, said, .nil, by simp [account?], by simp [account?]⟩
  | @holding handle g ok said saying =>
    exact ⟨.finished, g, said, saying, fun _ => rfl, by simp [account?]⟩
  | @returned handle g ok said saying ended =>
    refine ⟨.finished, g, said, saying, fun _ => rfl, fun _ => ?_⟩
    rw [Plan.hires_of_ok ok]
    exact ended
  | refused refused said silent =>
    subst silent
    refine ⟨.finished, _, said, .nil, fun _ => rfl, fun _ => ?_⟩
    rw [Plan.hires_of_error refused]
    rfl

end Duo.Staged

/-! ## What a recital keeps -/

namespace Recital

/-- What the sink sees of two greetings, one after the other. -/
def inTurn (first second : List Exchange) : List Part :=
  first.map (⟨.caller, ·⟩) ++ second.map (⟨.worker, ·⟩)

/-- **A recital in order**: the run is in one of its stages, the sink has seen the caller's
exchanges and then the worker's, each on its thread, and every reply was the sink's. -/
structure Ordered (p : Plan) (sink : Sink) (first second : List Exchange) (r : Recital) :
    Prop where
  staged : r.duo.Staged p first second
  seen : r.seen = inTurn first second
  callers : ∀ x ∈ first, x.thread = some Speaker.callingThread
  workers : ∀ x ∈ second, x.thread = some Speaker.worker.threadName
  answered : sink.Answered r.exchanges

namespace Ordered

variable {p : Plan} {sink : Sink} {first second : List Exchange} {r after : Recital}

theorem exchanges_eq (ordered : r.Ordered p sink first second) :
    r.exchanges = first ++ second := by
  rw [exchanges, ordered.seen, inTurn]
  simp [Function.comp_def]

theorem initial (p : Plan) (sink : Sink) : (start p).Ordered p sink [] [] where
  staged := .greeting .nil rfl
  seen := rfl
  callers := by simp
  workers := by simp
  answered := by
    intro before x isFront
    simp [exchanges, start] at isFront

theorem call {who : Speaker} {call : SinkCall} (ordered : r.Ordered p sink first second)
    (due : r.duo.call? who = some call) :
    ∃ first' second', (r.call sink who call).Ordered p sink first' second' := by
  let reply := (sink r.exchanges (r.duo.thread who) call).reply call
  obtain ⟨staged, silent, thread⟩ := ordered.staged.resume due reply
  refine ⟨_, _, staged, ?_, ?_, ?_, ?_⟩
  · show r.seen ++ [⟨who, r.duo.thread who, call, reply⟩] = _
    rw [ordered.seen]
    cases who with
    | caller => simp [inTurn, Speaker.extend, silent rfl]
    | worker => simp [inTurn, Speaker.extend]
  · intro x isFirst
    cases who with
    | worker => exact ordered.callers x isFirst
    | caller =>
      rcases List.mem_append.1 isFirst with old | new
      · exact ordered.callers x old
      · rw [List.mem_singleton.1 new]
        exact thread
  · intro x isSecond
    cases who with
    | caller => exact ordered.workers x isSecond
    | worker =>
      rcases List.mem_append.1 isSecond with old | new
      · exact ordered.workers x old
      · rw [List.mem_singleton.1 new]
        exact thread
  · intro before x isFront
    have more : (r.call sink who call).exchanges
        = r.exchanges ++ [⟨r.duo.thread who, call, reply⟩] := by
      simp [exchanges, Recital.call, reply]
    rw [more] at isFront
    rcases List.prefix_concat_iff.1 isFront with last | older
    · obtain ⟨rfl, same⟩ := List.append_inj' last rfl
      obtain rfl := List.singleton_inj.1 same
      rfl
    · exact ordered.answered before x older

theorem withDuo (ordered : r.Ordered p sink first second) {duo : Duo}
    (staged : duo.Staged p first second) : Ordered p sink first second { r with duo } :=
  ⟨staged, ordered.seen, ordered.callers, ordered.workers, ordered.answered⟩

/-- **One step of a recital** keeps it in order. -/
theorem step {who : Speaker} (ordered : r.Ordered p sink first second)
    (moved : r.step sink who = some after) :
    ∃ first' second', after.Ordered p sink first' second' := by
  unfold Recital.step at moved
  split at moved
  · next call due =>
    cases moved
    exact ordered.call due
  · cases moved
  · obtain ⟨duo, next, rfl⟩ := Option.map_eq_some_iff.1 moved
    refine ⟨first, second, ordered.withDuo ?_⟩
    rcases Option.or_eq_some_iff.1 next with launch | ⟨-, join⟩
    · exact ordered.staged.launch launch
    · exact ordered.staged.join join

/-- Every schedule keeps a recital in order. -/
theorem play (ordered : r.Ordered p sink first second) (schedule : List Speaker) :
    ∃ first' second', (r.play sink schedule).Ordered p sink first' second' := by
  induction schedule generalizing r first second with
  | nil => exact ⟨first, second, ordered⟩
  | cons who schedule ih =>
    rw [Recital.play, List.foldl_cons]
    cases moved : r.step sink who with
    | none => exact ih ordered
    | some after =>
      obtain ⟨first', second', ordered⟩ := ordered.step moved
      exact ih ordered

/-- A recital that has returned stays as it is. -/
theorem play_returned (ordered : r.Ordered p sink first second) (done : r.duo.account?.isSome)
    (schedule : List Speaker) : r.play sink schedule = r := by
  obtain ⟨noCall, noLaunch, noJoin⟩ := ordered.staged.idle done
  have stuck (who : Speaker) : r.step sink who = none := by
    cases who <;> simp [Recital.step, noCall, noLaunch, noJoin]
  induction schedule with
  | nil => rfl
  | cons who schedule ih =>
    rw [Recital.play, List.foldl_cons, stuck who]
    exact ih

theorem progress (ordered : r.Ordered p sink first second) (open_ : r.duo.account? = none) :
    (∃ who, (r.step sink who).isSome) ∨ ∃ panic, r.duo.caller = .greeting (.panicked panic) := by
  rcases ordered.staged.progress open_ with ⟨who, call, due⟩ | ⟨idle, goes⟩ | panicked
  · exact .inl ⟨who, by simp [Recital.step, due]⟩
  · refine .inl ⟨.caller, ?_⟩
    simpa [Recital.step, idle] using goes
  · exact .inr panicked

end Ordered

end Recital

/-! ## Scripts as sinks -/

/-- The queues after exchanges. -/
def Queues.afterAll (q : Queues) (exchanges : List Exchange) : Queues :=
  exchanges.foldl (fun q x => q.after x.call) q

namespace Script

/-- Whether a thread is the one that a script takes for the caller's. -/
def isCalling (thread : Option String) : Bool :=
  thread = some Speaker.callingThread

/-- The queues for a thread. -/
def side (s : Script) (thread : Option String) : Queues :=
  if isCalling thread then s.caller else s.others

/-- A script as a sink: the actions that a side's earlier calls have used up are left out. -/
def sink (s : Script) : Sink := fun seen thread call =>
  ((s.side thread).afterAll
    (seen.filter fun x => isCalling x.thread = isCalling thread)).action call

end Script

namespace Greeter

/-- A greeting that followed its queues is part of the one that is performed against them. -/
theorem Goes.perform_eq {thread : Option String} {g g' : Greeter} {exchanges : List Exchange}
    (goes : Goes g exchanges g') (q : Queues) (onThread : ∀ x ∈ exchanges, x.thread = thread)
    (answered : ∀ before x, before ++ [x] <+: exchanges →
      x.reply = (q.afterAll before).reply x.call) :
    g.perform thread q =
      { g'.perform thread (q.afterAll exchanges) with
        exchanges := exchanges ++ (g'.perform thread (q.afterAll exchanges)).exchanges } := by
  induction goes with
  | nil => rfl
  | @call exchanges g' own call before due reply ih =>
    have earlier := ih (fun x isOld => onThread x (List.mem_append_left _ isOld))
      (fun front x isFront => answered front x (isFront.trans (List.prefix_append _ _)))
    have isReply : reply = (q.afterAll exchanges).reply call :=
      answered exchanges ⟨own, call, reply⟩ (List.prefix_refl _)
    have isThread : own = thread := onThread ⟨own, call, reply⟩ (by simp)
    subst isReply isThread
    rw [earlier, perform]
    split
    · next idle => simp [due] at idle
    · next made isDue =>
      obtain rfl : call = made := by simpa [due] using isDue
      simp [Queues.afterAll]

/-- A greeting that followed its queues to its end is the one that is performed. -/
theorem Goes.perform_ended {thread : Option String} {g g' : Greeter} {exchanges : List Exchange}
    (goes : Goes g exchanges g') (ended : g'.next = none) (q : Queues)
    (onThread : ∀ x ∈ exchanges, x.thread = thread)
    (answered : ∀ before x, before ++ [x] <+: exchanges →
      x.reply = (q.afterAll before).reply x.call) :
    g.perform thread q = ⟨g', exchanges, q.afterAll exchanges⟩ := by
  rw [goes.perform_eq q onThread answered, perform]
  split
  · simp
  · next call due => simp [ended] at due

end Greeter

namespace Recital.Ordered

variable {p : Plan} {script : Script} {first second : List Exchange} {r : Recital}

/-- A caller's exchanges with a script follow the caller's queues. -/
theorem follows_caller (ordered : r.Ordered p script.sink first second) (before : List Exchange)
    (x : Exchange) (isFront : before ++ [x] <+: first) :
    x.reply = (script.caller.afterAll before).reply x.call := by
  have answered := ordered.answered before x
    (by rw [ordered.exchanges_eq]; exact isFront.trans (List.prefix_append _ _))
  have thread (y : Exchange) (isY : y ∈ before ++ [x]) :=
    ordered.callers y (isFront.subset isY)
  have all : before.filter (fun y => Script.isCalling y.thread = Script.isCalling x.thread)
      = before := by
    refine List.filter_eq_self.2 fun y isBefore => ?_
    rw [thread y (List.mem_append_left _ isBefore), thread x (by simp)]
    simp
  rw [answered, Script.sink, all, thread x (by simp)]
  rfl

/-- A worker's exchanges with a script follow the others' queues. -/
theorem follows_worker (ordered : r.Ordered p script.sink first second) (before : List Exchange)
    (x : Exchange) (isFront : before ++ [x] <+: second) :
    x.reply = (script.others.afterAll before).reply x.call := by
  have answered := ordered.answered (first ++ before) x
    (by
      rw [ordered.exchanges_eq, List.append_assoc]
      exact (List.prefix_append_right_inj first).2 isFront)
  have thread (y : Exchange) (isY : y ∈ before ++ [x]) :=
    ordered.workers y (isFront.subset isY)
  have other : Script.isCalling (some Speaker.worker.threadName) = false := by decide
  have own : Script.isCalling (some Speaker.callingThread) = true := by decide
  have rest : (first ++ before).filter
      (fun y => Script.isCalling y.thread = Script.isCalling x.thread) = before := by
    rw [List.filter_append, List.filter_eq_nil_iff.2, List.nil_append, List.filter_eq_self.2]
    · intro y isBefore
      rw [thread y (List.mem_append_left _ isBefore), thread x (by simp)]
      simp
    · intro y isFirst
      rw [ordered.callers y isFirst, thread x (by simp), other, own]
      simp
  rw [answered, Script.sink, rest, thread x (by simp), Script.side, other]
  rfl

/-- **Every schedule comes to what `Round.perform` tells**: the same exchanges in the same order,
and the same account. -/
theorem told (ordered : r.Ordered p script.sink first second) {account : Account}
    (done : r.duo.account? = some account) :
    (Round.perform ⟨{ current := p.launcher }, script⟩ p.conditions).result = .ok account ∧
      (Round.perform ⟨{ current := p.launcher }, script⟩ p.conditions).exchanges
        = first ++ second := by
  obtain ⟨duo, seen⟩ := r
  have staged : duo.Staged p first second := ordered.staged
  have caller (said : Greeter.Goes (.start .caller) first .finished) :
      script.greet (some Speaker.callingThread) .caller
        = (.finished, first, { script with caller := script.caller.afterAll first }) := by
    rw [Script.greet, if_pos rfl,
      said.perform_ended rfl script.caller ordered.callers ordered.follows_caller]
  have calm : Greeter.finished.panic? = none := rfl
  cases staged with
  | greeting said silent => simp [Duo.account?] at done
  | holding ok said saying => simp [Duo.account?] at done
  | refused refused said silent =>
    subst silent
    obtain rfl : Account.ofOutcome p.launched none p.conditions.elapsed = account := by
      simpa [Duo.account?] using done
    have spawn : p.launcher.spawn .worker p.conditions.refusal = .error _ := refused
    simp only [Round.perform, caller said, calm, Round.second, spawn, Except.toOption,
      Option.bind_none]
    rw [refused]
    exact ⟨rfl, by simp [Round.exchanges, List.filterMap_append, List.filterMap_map]⟩
  | @returned handle g ok said saying ended =>
    obtain rfl : Account.ofOutcome p.launched g.panic? p.conditions.elapsed = account := by
      simpa [Duo.account?] using done
    have spawn : p.launcher.spawn .worker p.conditions.refusal = .ok handle := ok
    have inner := Plan.launched_eq_ok ok
    have worker : Script.greet { script with caller := script.caller.afterAll first }
        (some Speaker.worker.threadName) .worker
          = (g, second, ⟨script.caller.afterAll first, script.others.afterAll second⟩) := by
      rw [Script.greet, if_neg (by decide),
        saying.perform_ended ended script.others ordered.workers ordered.follows_worker]
    simp only [Round.perform, caller said, calm, Round.second, spawn, Except.toOption,
      Option.bind_some, inner, Round.work, if_true, worker]
    rw [ok]
    refine ⟨?_, by simp [Round.exchanges, List.filterMap_append, List.filterMap_map]⟩
    rw [Worker.ending, if_pos rfl, Option.or_none]

end Recital.Ordered

/-! ## The order of the two greetings -/

namespace Recital

/-- **The two greetings of a run never mix.** Whatever plan a run follows, however its sink answers
and however its threads take turns: what the sink has seen are exchanges of the caller's greeting
and then exchanges of the worker's. The worker has none before the caller's have ended in a flush.
Once the run has returned, both are greetings from beginning to end, or the worker's is empty if
there was no worker; whatever the schedule still holds, the sink sees nothing more. A run that has
not returned has a step to make, unless the sink panicked under its caller. In front of a script,
the exchanges and the account are those that `Round.perform` tells. -/
theorem seen_in_order (p : Plan) (sink : Sink) (schedule : List Speaker) :
    let now := (start p).play sink schedule
    ∃ (first second : List Exchange) (caller worker : Greeter),
      now.seen = first.map (⟨.caller, ·⟩) ++ second.map (⟨.worker, ·⟩) ∧
      Greeter.Goes (.start .caller) first caller ∧ Greeter.Goes (.start .worker) second worker ∧
      (second ≠ [] ∨ now.duo.account?.isSome →
        caller = .finished ∧ ∃ front last, first = front ++ [last] ∧ last.call = .flush) ∧
      (now.duo.account?.isSome →
        (if p.hires then worker.next = none else second = []) ∧
          ∀ later, now.play sink later = now) ∧
      (now.duo.account? = none →
        (∃ who, (now.step sink who).isSome) ∨
          ∃ panic, now.duo.caller = .greeting (.panicked panic)) ∧
      ∀ script account, sink = Script.sink script → now.duo.account? = some account →
        (Round.perform ⟨{ current := p.launcher }, script⟩ p.conditions).result = .ok account ∧
          (Round.perform ⟨{ current := p.launcher }, script⟩ p.conditions).exchanges
            = first ++ second := by
  intro now
  obtain ⟨first, second, ordered⟩ := (Ordered.initial p sink).play schedule
  obtain ⟨caller, worker, said, saying, finished, ended⟩ := ordered.staged.greetings
  refine ⟨first, second, caller, worker, ordered.seen, said, saying, ?_, ?_, ordered.progress, ?_⟩
  · intro later
    obtain rfl := finished later
    exact ⟨rfl, said.endsInFlush⟩
  · intro done
    exact ⟨ended done, ordered.play_returned done⟩
  · rintro script account rfl done
    exact ordered.told done

end Recital

end Duet
