import Duet.Proofs.Run.Ensemble
import Mathlib.Algebra.GroupWithZero.Nat
import Mathlib.Data.List.Forall2
import Mathlib.Data.List.Perm.Basic

/-!
# An ensemble never tears, loses or doubles a line

The argument goes voice by voice. A run on a buffer is always in one of three stages: it greets
and has no worker, it holds the handle of a worker whose greeting is whole, or it has returned
and its worker is through (`Duo.Tuned`). In each of them the lines it has sent are known, and a
step adds at most one (`Voice.Tuned.step`). The steps of one voice leave the others in tune,
since the handles of a shelf only grow in number and appending to the buffer is one step.

**The lines in the buffer are a rearrangement of the lines that the runs have sent**
(`Ensemble.Tuned`), so counting them is counting runs.
-/

namespace Duet

/-! ## Buffers -/

namespace Shelf

/-- The first buffer got more bytes, and every handle of it is one still. -/
structure Grown (before after : Shelf) (data : List UInt8) : Prop where
  bytes : after.bytes 0 = before.bytes 0 ++ data
  keeps : ∀ handle, before.find? handle = some 0 → after.find? handle = some 0
  present : 0 < after.buffers.length

theorem find?_addHandle {s : Shelf} {handle buffer : Nat} (added : Nat)
    (found : s.find? handle = some buffer) : (s.addHandle added).find? handle = some buffer := by
  obtain ⟨lt, _⟩ := List.getElem?_eq_some_iff.1 found
  rw [find?, addHandle, List.getElem?_append_left lt]
  exact found

theorem find?_addHandle_length (s : Shelf) (added : Nat) :
    (s.addHandle added).find? s.handles.length = some added := by
  simp [find?, addHandle]

theorem grown_addHandle {s : Shelf} (present : 0 < s.buffers.length) (added : Nat) :
    Grown s (s.addHandle added) [] :=
  ⟨(List.append_nil _).symm, fun _ found => find?_addHandle added found, present⟩

theorem grown_append {s : Shelf} (present : 0 < s.buffers.length) (data : List UInt8) :
    Grown s (s.append 0 data) data :=
  ⟨bytes_append_self s data present, fun _ found => found, by simpa [append] using present⟩

/-- **A call on a buffer**: all that is offered is taken, at the end of what was there, and the
thread goes on with a handle of the same buffer. -/
theorem step_call {s : Shelf} {handle : Nat} (found : s.find? handle = some 0)
    (present : 0 < s.buffers.length) (call : SinkCall) :
    (s.step (.use handle call.use)).2.reply = .done call.offered.length ∧
      Grown s (s.step (.use handle call.use)).1 call.offered ∧
      (s.step (.use handle call.use)).1.find?
        ((s.step (.use handle call.use)).2.handleOr handle) = some 0 := by
  simp only [step, found]
  cases call with
  | writer => exact ⟨rfl, grown_addHandle present 0, find?_addHandle_length s 0⟩
  | write data => exact ⟨rfl, grown_append present data, found⟩
  | flush => exact ⟨rfl, grown_append present [], found⟩

/-- A copy of a handle reaches the same buffer and adds nothing to it. -/
theorem step_clone {s : Shelf} {handle : Nat} (found : s.find? handle = some 0)
    (present : 0 < s.buffers.length) :
    Grown s (s.step (.use handle .clone)).1 [] ∧
      (s.step (.use handle .clone)).1.find?
        ((s.step (.use handle .clone)).2.handleOr handle) = some 0 := by
  simp only [step, found]
  exact ⟨grown_addHandle present 0, find?_addHandle_length s 0⟩

end Shelf

/-! ## Plans -/

namespace Plan

/-- A worker that is created runs its entry, under the worker's number, and does nothing else. -/
theorem launched_eq_ok {p : Plan} {handle : Handle} (ok : p.launched = .ok handle) :
    handle.inner = some { thread := some Speaker.worker.threadName } := by
  obtain ⟨fault, conditions⟩ := p
  obtain ⟨refusal, elapsed⟩ := conditions
  rcases fault with _ | _ | _ <;> cases refusal <;> cases ok <;> rfl

/-- What a run comes to is decided by its spawn. -/
theorem alone_eq (p : Plan) :
    p.alone = .ok (.ofOutcome p.launched none p.conditions.elapsed) := by
  simp only [alone, Round.perform, Script.greet_empty, Greeter.panic?, Round.second, launched]
  cases spawned : p.launcher.spawn .worker p.conditions.refusal with
  | error failure => rfl
  | ok handle =>
    have inner := launched_eq_ok spawned
    simp only [Except.toOption, Option.bind_some, inner, Round.work, if_pos, Script.greet_empty]
    rfl

theorem hires_of_ok {p : Plan} {handle : Handle} (ok : p.launched = .ok handle) :
    p.hires = true := by
  rw [hires, ok]
  rfl

theorem hires_of_error {p : Plan} {failure : RunFailure} (error : p.launched = .error failure) :
    p.hires = false := by
  rw [hires, error]
  rfl

end Plan

/-! ## One run -/

/-- The lines that a calling thread has sent. -/
def Caller.sent : Caller → List Speaker
  | .greeting g => g.sent .caller
  | _ => [.caller]

/-- The steps that are left to a calling thread at most, those of a worker it has yet to launch
included. -/
def Caller.distance : Caller → Nat
  | .greeting g => g.distance + 5
  | .holding _ => 1
  | .returned _ => 0

namespace Duo

/-- The lines that the threads of a run have sent, the caller's first. -/
def sent (d : Duo) : List Speaker :=
  d.caller.sent ++ (d.hired.map (·.greeter.sent .worker)).getD []

/-- The steps that are left to a run at most. -/
def distance (d : Duo) : Nat :=
  d.caller.distance + (d.hired.map (·.greeter.distance)).getD 0

/-- **The stages of a run on a sink that takes everything.** -/
inductive Tuned (p : Plan) : Duo → Prop where
  | greeting {g : Greeter} (whole : g.Whole .caller) :
    Tuned p ⟨p.launcher, p.conditions, .greeting g, none⟩
  | holding {handle : Handle} {g : Greeter} (ok : p.launched = .ok handle)
    (whole : g.Whole .worker) :
    Tuned p ⟨p.launcher, p.conditions, .holding handle,
      some ⟨{ thread := some Speaker.worker.threadName }, g⟩⟩
  | returned {account : Account} {worker : Worker} (alone : p.alone = .ok account)
    (hires : p.hires = true) :
    Tuned p ⟨p.launcher, p.conditions, .returned account, some ⟨worker, .finished⟩⟩
  | refused {account : Account} (alone : p.alone = .ok account) (hires : p.hires = false) :
    Tuned p ⟨p.launcher, p.conditions, .returned account, none⟩

namespace Tuned

/-- No run has sent the worker's line without the caller's. -/
theorem count_worker_le {p : Plan} {d : Duo} (tuned : Tuned p d) :
    d.sent.count .worker ≤ d.sent.count .caller := by
  cases tuned with
  | greeting whole => cases whole <;> simp [sent, Caller.sent, Greeter.sent]
  | holding ok whole => cases whole <;> simp [sent, Caller.sent, Greeter.sent]
  | returned alone hires => simp [sent, Caller.sent, Greeter.sent]
  | refused alone hires => simp [sent, Caller.sent]

/-- **A call of either thread that is taken in full** keeps a run in tune; what was offered are
the lines it has sent more than before. -/
theorem resume {p : Plan} {d : Duo} {who : Speaker} {call : SinkCall} (tuned : Tuned p d)
    (due : d.call? who = some call) :
    Tuned p (d.resume who (.done call.offered.length)) ∧
      (d.resume who (.done call.offered.length)).distance < d.distance ∧
      ∃ new : Option Speaker,
        (d.resume who (.done call.offered.length)).sent = d.sent ++ new.toList ∧
          call.offered = new.toList.flatMap Speaker.line := by
  cases tuned with
  | @greeting g whole =>
    cases who with
    | worker => simp [call?] at due
    | caller =>
      obtain ⟨stays, closer, new, more, offered⟩ := whole.resume due
      refine ⟨.greeting stays, ?_, new, ?_, offered⟩
      · simpa [distance, Duo.resume, Caller.distance] using closer
      · simpa [sent, Duo.resume, Caller.sent] using more
  | @holding handle g ok whole =>
    cases who with
    | caller => simp [call?] at due
    | worker =>
      obtain ⟨stays, closer, new, more, offered⟩ := whole.resume due
      refine ⟨.holding ok stays, ?_, new, ?_, offered⟩
      · simpa [distance, Duo.resume] using closer
      · simpa [sent, Duo.resume] using more
  | returned alone hires => cases who <;> simp [call?, Greeter.next] at due
  | refused alone hires => cases who <;> simp [call?] at due

/-- The spawn keeps a run in tune and sends nothing. -/
theorem launch {p : Plan} {d after : Duo} (tuned : Tuned p d) (step : d.launch? = some after) :
    Tuned p after ∧ after.distance < d.distance ∧ after.sent = d.sent := by
  cases tuned with
  | greeting whole =>
    cases whole with
    | opening => simp [launch?] at step
    | writing => simp [launch?] at step
    | flushing => simp [launch?] at step
    | finished =>
      simp only [launch?] at step
      have spawned : Duo.launched ⟨p.launcher, p.conditions, .greeting .finished, none⟩
          = p.launched := rfl
      rw [spawned] at step
      cases launched : p.launched with
      | error failure =>
        rw [launched] at step
        cases step
        refine ⟨.refused ?_ (Plan.hires_of_error launched),
          by simp [distance, Caller.distance], rfl⟩
        rw [Plan.alone_eq, launched]
      | ok handle =>
        simp only [launched, Plan.launched_eq_ok launched] at step
        cases step
        refine ⟨.holding launched .opening, ?_, rfl⟩
        simp [distance, Caller.distance, Hired.begin, Greeter.start, Greeter.distance]
  | holding ok whole => simp [launch?] at step
  | returned alone hires => simp [launch?] at step
  | refused alone hires => simp [launch?] at step

/-- The join keeps a run in tune, sends nothing, and ends with the account of the run alone. -/
theorem join {p : Plan} {d after : Duo} (tuned : Tuned p d) (step : d.join? = some after) :
    Tuned p after ∧ after.distance < d.distance ∧ after.sent = d.sent := by
  cases tuned with
  | greeting whole => simp [join?] at step
  | returned alone hires => simp [join?] at step
  | refused alone hires => simp [join?] at step
  | @holding handle g ok whole =>
    simp only [join?] at step
    split at step
    · next idle =>
      cases step
      obtain rfl := whole.eq_finished (Option.isNone_iff_eq_none.1 idle)
      refine ⟨.returned ?_ (Plan.hires_of_ok ok), by simp [distance, Caller.distance], rfl⟩
      rw [Plan.alone_eq, ok]
      rfl
    · cases step

/-- **A run in tune that has not returned can go on**: its caller can, or its worker. -/
theorem progress {p : Plan} {d : Duo} (tuned : Tuned p d) (open_ : d.account? = none) :
    (∃ who call, d.call? who = some call) ∨
      d.call? .caller = none ∧ (d.launch?.isSome ∨ d.join?.isSome) := by
  cases tuned with
  | @greeting g whole =>
    cases due : g.next with
    | some call => exact .inl ⟨.caller, call, due⟩
    | none =>
      obtain rfl := whole.eq_finished due
      refine .inr ⟨due, .inl ?_⟩
      simp only [launch?]
      split <;> rfl
  | @holding handle g ok whole =>
    cases due : g.next with
    | some call => exact .inl ⟨.worker, call, due⟩
    | none => exact .inr ⟨rfl, .inr (by simp [join?, due])⟩
  | returned alone hires => simp [account?] at open_
  | refused alone hires => simp [account?] at open_

end Tuned

end Duo

/-! ## One voice -/

namespace Voice

/-- A run in tune whose handles all reach the first buffer of a shelf. -/
structure Tuned (p : Plan) (shelf : Shelf) (v : Voice) : Prop where
  duo : v.duo.Tuned p
  sink : shelf.find? v.sink = some 0
  through : ∀ who, shelf.find? (v.through who) = some 0

theorem Tuned.grown {p : Plan} {before after : Shelf} {data : List UInt8} {v : Voice}
    (tuned : v.Tuned p before) (grown : before.Grown after data) : v.Tuned p after :=
  ⟨tuned.duo, grown.keeps _ tuned.sink, fun who => grown.keeps _ (tuned.through who)⟩

theorem through_give (v : Voice) (who other : Speaker) (handle : Nat) :
    (v.give who handle).through other = if other = who then handle else v.through other := by
  cases who <;> cases other <;> rfl

theorem give_duo (v : Voice) (who : Speaker) (handle : Nat) : (v.give who handle).duo = v.duo := by
  cases who <;> rfl

theorem give_sink (v : Voice) (who : Speaker) (handle : Nat) :
    (v.give who handle).sink = v.sink := by
  cases who <;> rfl

/-- What one step of a voice leads to. -/
structure Advance (p : Plan) (before after : Shelf) (v w : Voice) (new : Option Speaker) :
    Prop where
  tuned : w.Tuned p after
  grown : before.Grown after (new.toList.flatMap Speaker.line)
  sent : w.duo.sent = v.duo.sent ++ new.toList
  closer : w.duo.distance < v.duo.distance

theorem Tuned.call {p : Plan} {shelf : Shelf} {v : Voice} {who : Speaker} {call : SinkCall}
    (tuned : v.Tuned p shelf) (present : 0 < shelf.buffers.length)
    (due : v.duo.call? who = some call) :
    ∃ new, Advance p shelf (v.call shelf who call).1 v (v.call shelf who call).2 new := by
  obtain ⟨taken, grown, reached⟩ := Shelf.step_call (tuned.through who) present call
  obtain ⟨stays, closer, new, more, offered⟩ := tuned.duo.resume due
  have duoAfter : (v.call shelf who call).2.duo
      = v.duo.resume who (.done call.offered.length) := by
    rw [← taken]
    exact give_duo _ _ _
  refine ⟨new, ⟨by rw [duoAfter]; exact stays, ?_, fun other => ?_⟩, by rw [← offered]; exact grown,
    by rw [duoAfter]; exact more, by rw [duoAfter]; exact closer⟩
  · rw [Voice.call, give_sink]
    exact grown.keeps _ tuned.sink
  · rw [Voice.call, through_give]
    split
    · exact reached
    · exact grown.keeps _ (tuned.through other)

/-- **One step of a voice**, whichever it is: it stays in tune, and the buffer gets exactly the
line that it has sent more than before, if any. -/
theorem Tuned.step {p : Plan} {shelf after : Shelf} {v w : Voice} {who : Speaker}
    (tuned : v.Tuned p shelf) (present : 0 < shelf.buffers.length)
    (step : v.step shelf who = some (after, w)) : ∃ new, Advance p shelf after v w new := by
  unfold Voice.step at step
  split at step
  · next call due =>
    obtain ⟨rfl, rfl⟩ := Prod.mk.inj (Option.some.inj step)
    exact tuned.call present due
  · cases step
  · split at step
    · next duo launch =>
      obtain ⟨rfl, rfl⟩ := Prod.mk.inj (Option.some.inj step)
      obtain ⟨stays, closer, same⟩ := tuned.duo.launch launch
      obtain ⟨grown, reached⟩ := Shelf.step_clone tuned.sink present
      refine ⟨none, ⟨stays, grown.keeps _ tuned.sink, fun other => ?_⟩, grown, ?_, closer⟩
      · cases other with
        | caller => exact grown.keeps _ (tuned.through .caller)
        | worker => exact reached
      · simpa using same
    · obtain ⟨duo, join, eq⟩ := Option.map_eq_some_iff.1 step
      obtain ⟨rfl, rfl⟩ := Prod.mk.inj eq
      obtain ⟨stays, closer, same⟩ := tuned.duo.join join
      refine ⟨none, ⟨stays, tuned.sink, tuned.through⟩, ?_, by simpa using same, closer⟩
      exact ⟨by simp, fun _ found => found, present⟩

/-- A voice whose run has not returned has a step to make. -/
theorem Tuned.progress {p : Plan} {shelf : Shelf} {v : Voice} (tuned : v.Tuned p shelf)
    (open_ : v.duo.account? = none) : ∃ who, (v.step shelf who).isSome := by
  rcases tuned.duo.progress open_ with ⟨who, call, due⟩ | ⟨idle, launch | join⟩
  · exact ⟨who, by simp [Voice.step, due]⟩
  · obtain ⟨duo, launch⟩ := Option.isSome_iff_exists.1 launch
    exact ⟨.caller, by simp [Voice.step, idle, launch]⟩
  · obtain ⟨duo, join⟩ := Option.isSome_iff_exists.1 join
    refine ⟨.caller, ?_⟩
    simp only [Voice.step, idle]
    split
    · rfl
    · rw [join]
      rfl

end Voice

/-! ## Changing one of many -/

private theorem forall₂_set {α β : Type} {R : α → β → Prop} {as : List α} {bs : List β}
    (all : List.Forall₂ R as bs) {i : Nat} {b : β} (at_ : bs[i]? = some b) :
    ∃ a, R a b ∧ ∀ (S : α → β → Prop) (b' : β), (∀ a b, R a b → S a b) → S a b' →
      List.Forall₂ S as (bs.set i b') := by
  induction all generalizing i with
  | nil => simp at at_
  | @cons a head as bs first rest ih =>
    cases i with
    | zero =>
      obtain rfl : head = b := by simpa using at_
      exact ⟨a, first, fun S b' weaken new => .cons new (rest.imp weaken)⟩
    | succ i =>
      obtain ⟨a', old, replace⟩ := ih (by simpa using at_)
      exact ⟨a', old, fun S b' weaken new => .cons (weaken _ _ first) (replace S b' weaken new)⟩

private theorem flatMap_set_perm {α β : Type} {f : α → List β} {as : List α} {i : Nat} {a b : α}
    {new : List β} (at_ : as[i]? = some a) (more : f b = f a ++ new) :
    ((as.set i b).flatMap f).Perm (as.flatMap f ++ new) := by
  induction as generalizing i with
  | nil => simp at at_
  | cons head as ih =>
    cases i with
    | zero =>
      obtain rfl : head = a := by simpa using at_
      simp only [List.set_cons_zero, List.flatMap_cons, more, List.append_assoc]
      exact List.Perm.append_left _ List.perm_append_comm
    | succ i =>
      simp only [List.set_cons_succ, List.flatMap_cons, List.append_assoc]
      exact (ih (by simpa using at_)).append_left _

private theorem sum_set_lt {α : Type} {f : α → Nat} {as : List α} {i : Nat} {a b : α}
    (at_ : as[i]? = some a) (less : f b < f a) :
    ((as.set i b).map f).sum < (as.map f).sum := by
  induction as generalizing i with
  | nil => simp at at_
  | cons head as ih =>
    cases i with
    | zero =>
      obtain rfl : head = a := by simpa using at_
      simpa using less
    | succ i => simpa using ih (by simpa using at_)

/-! ## The ensemble -/

namespace Ensemble

/-- **An ensemble in tune**: so is every voice, and the buffer has got whole lines, in every
front part of which the callers are ahead; they are the lines that the runs have sent. -/
structure Tuned (before : List UInt8) (plans : List Plan) (e : Ensemble) (said : List Speaker) :
    Prop where
  voices : List.Forall₂ (fun p v => Voice.Tuned p e.shelf v) plans e.voices
  present : 0 < e.shelf.buffers.length
  buffer : e.buffer = before ++ said.flatMap Speaker.line
  sent : said.Perm (e.voices.flatMap (·.duo.sent))
  ahead : ∀ front, front <+: said → front.count .worker ≤ front.count .caller

/-- The steps that are left to an ensemble at most. -/
def distance (e : Ensemble) : Nat :=
  (e.voices.map (·.duo.distance)).sum

theorem step_eq_some {e after : Ensemble} {turn : Turn} (step : e.step turn = some after) :
    ∃ v w, e.voices[turn.run]? = some v ∧ v.step e.shelf turn.who = some (after.shelf, w) ∧
      after.voices = e.voices.set turn.run w := by
  obtain ⟨v, at_, rest⟩ := Option.bind_eq_some_iff.1 step
  obtain ⟨⟨shelf, w⟩, moved, eq⟩ := Option.bind_eq_some_iff.1 rest
  cases eq
  exact ⟨v, w, at_, moved, rfl⟩

/-- Over all runs, the workers' lines are at most as many as the callers'. -/
theorem count_sent_le {plans : List Plan} {shelf : Shelf} {voices : List Voice}
    (tuned : List.Forall₂ (fun p v => Voice.Tuned p shelf v) plans voices) :
    (voices.flatMap (·.duo.sent)).count .worker ≤ (voices.flatMap (·.duo.sent)).count .caller := by
  induction tuned with
  | nil => exact Nat.le_refl 0
  | cons first _ ih =>
    simp only [List.flatMap_cons, List.count_append]
    exact Nat.add_le_add first.duo.count_worker_le ih

/-- **One step of an ensemble** keeps it in tune, and takes one from what is left to do. -/
theorem Tuned.step {before : List UInt8} {plans : List Plan} {e after : Ensemble} {turn : Turn}
    {said : List Speaker} (tuned : Tuned before plans e said) (step : e.step turn = some after) :
    (∃ new : Option Speaker, Tuned before plans after (said ++ new.toList)) ∧
      after.distance < e.distance := by
  obtain ⟨v, w, at_, moved, voices⟩ := step_eq_some step
  obtain ⟨p, old, replace⟩ := forall₂_set tuned.voices at_
  obtain ⟨new, advance⟩ := old.step tuned.present moved
  have stay : List.Forall₂ (fun p v => Voice.Tuned p after.shelf v) plans after.voices := by
    rw [voices]
    exact replace _ w (fun _ _ other => other.grown advance.grown) advance.tuned
  have sent : (said ++ new.toList).Perm (after.voices.flatMap (·.duo.sent)) := by
    rw [voices]
    exact (tuned.sent.append_right _).trans (flatMap_set_perm at_ advance.sent).symm
  refine ⟨⟨new, stay, advance.grown.present, ?_, sent, ?_⟩, ?_⟩
  · rw [Ensemble.buffer, advance.grown.bytes, List.flatMap_append, ← List.append_assoc,
      ← tuned.buffer]
    rfl
  · -- only the front part that ends in the new line is new, and it is all that was sent
    intro front isFront
    cases new with
    | none => exact tuned.ahead front (by simpa using isFront)
    | some who =>
      rcases List.prefix_concat_iff.1 isFront with rfl | older
      · have counts := count_sent_le stay
        rwa [← sent.count_eq, ← sent.count_eq] at counts
      · exact tuned.ahead front older
  · rw [distance, voices]
    exact sum_set_lt at_ advance.closer

/-- Every schedule keeps an ensemble in tune. -/
theorem Tuned.play {before : List UInt8} {plans : List Plan} {e : Ensemble} {said : List Speaker}
    (tuned : Tuned before plans e said) (schedule : List Turn) :
    ∃ more, Tuned before plans (e.play schedule) (said ++ more) := by
  induction schedule generalizing e said with
  | nil => exact ⟨[], by rw [List.append_nil]; exact tuned⟩
  | cons turn schedule ih =>
    rw [Ensemble.play, List.foldl_cons]
    cases moved : e.step turn with
    | none => exact ih tuned
    | some after =>
      obtain ⟨⟨new, tuned⟩, _⟩ := tuned.step moved
      obtain ⟨more, tuned⟩ := ih tuned
      exact ⟨new.toList ++ more, by rw [← List.append_assoc]; exact tuned⟩

/-- An ensemble in tune in which a run has not returned has a step to make. -/
theorem Tuned.progress {before : List UInt8} {plans : List Plan} {e : Ensemble}
    {said : List Speaker} (tuned : Tuned before plans e said) (open_ : ¬ e.Returned) :
    ∃ turn after, e.step turn = some after := by
  simp only [Returned, accounts, List.mem_map, not_forall] at open_
  obtain ⟨_, ⟨v, isVoice, rfl⟩, notYet⟩ := open_
  obtain ⟨i, at_⟩ := List.mem_iff_getElem?.1 isVoice
  obtain ⟨p, inTune, -⟩ := forall₂_set tuned.voices at_
  obtain ⟨who, goes⟩ := inTune.progress (by simpa using notYet)
  obtain ⟨⟨shelf, w⟩, moved⟩ := Option.isSome_iff_exists.1 goes
  refine ⟨⟨i, who⟩, { shelf, voices := e.voices.set i w }, ?_⟩
  simp only [Ensemble.step, at_, moved, Option.bind_eq_bind, Option.bind_some]

/-- **No ensemble in tune is stuck**: some schedule lets every run return. -/
theorem Tuned.returns {before : List UInt8} {plans : List Plan} {e : Ensemble}
    {said : List Speaker} (tuned : Tuned before plans e said) :
    ∃ schedule, (e.play schedule).Returned := by
  -- each step takes from the distance, so the steps run out only when every run has returned
  induction left : e.distance using Nat.strongRecOn generalizing e said with
  | ind n ih =>
    by_cases done : e.Returned
    · exact ⟨[], done⟩
    · obtain ⟨turn, after, moved⟩ := tuned.progress done
      obtain ⟨⟨new, inTune⟩, closer⟩ := tuned.step moved
      obtain ⟨schedule, returned⟩ := ih after.distance (left ▸ closer) inTune rfl
      refine ⟨turn :: schedule, ?_⟩
      rw [Ensemble.play, List.foldl_cons, moved]
      exact returned

end Ensemble

end Duet
