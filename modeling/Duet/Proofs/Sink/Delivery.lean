import Duet.Proofs.Greeting
import Duet.Proofs.Run.Accounting
import Mathlib.Algebra.GroupWithZero.Nat

/-!
# How much of a line gets through

A sink may take a line in pieces, be interrupted, take nothing or fail. The writes of a greeting
are told here by what they share with the line and with the script: each offers exactly what the
ones before it have left (`Delivers.offers`), each is answered by the next action
(`Delivers.follows`), and one is the last exactly if it leaves nothing to try
(`Delivers.ends`). An interrupted write makes no progress, so it is the script that runs out, and
with it the writes (`Greeter.perform_writing`).

**Against every script the greeting ends, with one flush after its last write, and what the sink
took is the start of the line, as long as the script grants** (`Greeter.line_delivered`).
-/

namespace Duet

/-! ## Single writes -/

/-- How many bytes a reply says were taken. -/
def Reply.count : Reply → Nat
  | .done count => count
  | _ => 0

/-- **A write after which none follows**: it took nothing, it failed other than by an interruption,
or it took all it was offered. -/
inductive Exchange.Stops (x : Exchange) : Prop where
  | nothing (took : x.reply = .done 0)
  | failed {e : SystemError} (failed : x.reply = .failed e) (final : e.kind ≠ .interrupted)
  | complete (took : x.taken = x.call.offered)

theorem SystemError.kind_numbered_four : (numbered 4).kind = .interrupted := by
  decide

theorem Exchange.taken_write (thread : Option String) (data : List UInt8) (reply : Reply) :
    (⟨thread, .write data, reply⟩ : Exchange).taken = data.take reply.count := by
  cases reply <;> simp [taken, Reply.count]

/-- No reply takes more than was offered. -/
theorem Action.count_reply_le (action : Action) (call : SinkCall) :
    (action.reply call).count ≤ call.offered.length := by
  cases action with
  | take count =>
    cases call with
    | write data => exact Nat.min_le_right count data.length
    | writer => exact Nat.le_refl 0
    | flush => exact Nat.le_refl 0
  | succeed => cases call <;> simp [reply, Reply.count]
  | panic p => simp [reply, Reply.count]
  | refuse e => cases call <;> simp [reply, Reply.count]

/-- **One write**: it stops, and the flush is due; or it does not, and what it left is offered
next. -/
theorem Greeter.resume_write {rest : List UInt8} (some : rest ≠ []) (thread : Option String)
    {reply : Reply} (calm : reply.panic? = none) (fits : reply.count ≤ rest.length) :
    let x : Exchange := ⟨thread, .write rest, reply⟩
    (x.Stops ∧ (writing rest).resume reply = .flushing) ∨
      (¬ x.Stops ∧ ∃ left, left ≠ [] ∧ rest = x.taken ++ left ∧
        (writing rest).resume reply = .writing left) := by
  intro x
  have taken : x.taken = rest.take reply.count := Exchange.taken_write thread rest reply
  cases reply with
  | panicked p => cases calm
  | failed e =>
    by_cases interrupted : e.kind = .interrupted
    · refine .inr ⟨?_, rest, some, by rw [taken]; rfl, ?_⟩
      · rintro (took | ⟨same, final⟩ | all)
        · cases took
        · cases same
          exact final interrupted
        · rw [taken] at all
          exact some all.symm
      · simp [resume, SystemError.isInterrupted, interrupted]
    · refine .inl ⟨.failed rfl interrupted, ?_⟩
      simp [resume, SystemError.isInterrupted, interrupted]
  | done count =>
    have fits : count ≤ rest.length := fits
    by_cases zero : count = 0
    · subst zero
      exact .inl ⟨.nothing rfl, rfl⟩
    · by_cases all : count = rest.length
      · subst all
        refine .inl ⟨.complete ?_, resume_writing_all rest⟩
        rw [taken]
        exact List.take_length
      · have left : rest.drop count ≠ [] := by
          intro isNil
          have := List.drop_eq_nil_iff.1 isNil
          omega
        refine .inr ⟨?_, rest.drop count, left, ?_, ?_⟩
        · rintro (took | ⟨same, -⟩ | whole)
          · exact zero (Reply.done.inj took)
          · cases same
          · rw [taken] at whole
            have length := congrArg List.length whole
            simp only [Reply.count, List.length_take, x, SinkCall.offered] at length
            omega
        · rw [taken]
          exact (List.take_append_drop count rest).symm
        · simp [resume, zero, offering, left]

/-! ## All writes of a line -/

/-- **Writes that deliver bytes**, as far as a script lets them. -/
structure Delivers (bytes : List UInt8) (script : List Action) (writes : List Exchange) : Prop where
  /-- Each write offers what those before it have left, and that is something. -/
  offers : ∀ (before : List Exchange) (x : Exchange) (after : List Exchange),
    writes = before ++ x :: after →
      ∃ left, x.call = .write left ∧ left ≠ [] ∧ bytes = before.flatMap Exchange.taken ++ left
  /-- Each write is answered by the next action; when there is none left, it succeeds. -/
  follows : ∀ (i : Nat) (x : Exchange), writes[i]? = some x →
    x.reply = (script.getD i .succeed).reply x.call
  /-- A write is the last one exactly if it stops. -/
  ends : ∀ before x after, writes = before ++ x :: after → (after = [] ↔ x.Stops)
  written : writes ≠ []

namespace Delivers

variable {bytes left : List UInt8} {script : List Action} {x : Exchange} {writes : List Exchange}

theorem one (some : bytes ≠ []) (offer : x.call = .write bytes)
    (answer : x.reply = (script.headD .succeed).reply x.call) (stops : x.Stops) :
    Delivers bytes script [x] where
  offers := by
    intro before y after split
    obtain ⟨rfl, same⟩ | ⟨_, _, none⟩ := List.cons_eq_append_iff.1 split
    · obtain ⟨rfl, -⟩ := List.cons.inj same
      exact ⟨bytes, offer, some, rfl⟩
    · simp at none
  follows := by
    intro i y isY
    cases i with
    | zero =>
      cases isY
      rw [answer]
      cases script <;> rfl
    | succ i => cases isY
  ends := by
    intro before y after split
    obtain ⟨rfl, same⟩ | ⟨_, _, none⟩ := List.cons_eq_append_iff.1 split
    · obtain ⟨rfl, rfl⟩ := List.cons.inj same
      simp [stops]
    · simp at none
  written := List.cons_ne_nil x []

theorem cons (some : bytes ≠ []) (offer : x.call = .write bytes)
    (answer : x.reply = (script.headD .succeed).reply x.call) (goesOn : ¬ x.Stops)
    (rest : bytes = x.taken ++ left) (delivers : Delivers left script.tail writes) :
    Delivers bytes script (x :: writes) where
  offers := by
    intro before y after split
    obtain ⟨rfl, same⟩ | ⟨earlier, rfl, later⟩ := List.cons_eq_append_iff.1 split
    · obtain ⟨rfl, -⟩ := List.cons.inj same
      exact ⟨bytes, offer, some, rfl⟩
    · obtain ⟨more, isCall, isSome, isLeft⟩ := delivers.offers earlier y after later
      refine ⟨more, isCall, isSome, ?_⟩
      rw [rest, isLeft, List.flatMap_cons, List.append_assoc]
  follows := by
    intro i y isY
    cases i with
    | zero =>
      cases isY
      rw [answer]
      cases script <;> rfl
    | succ i =>
      rw [delivers.follows i y isY]
      cases script <;> rfl
  ends := by
    intro before y after split
    obtain ⟨rfl, same⟩ | ⟨earlier, rfl, later⟩ := List.cons_eq_append_iff.1 split
    · obtain ⟨rfl, rfl⟩ := List.cons.inj same
      simp [goesOn, delivers.written]
    · exact delivers.ends earlier y after later
  written := List.cons_ne_nil x writes

theorem taken_prefix (delivers : Delivers bytes script writes) :
    writes.flatMap Exchange.taken <+: bytes := by
  obtain ⟨before, x, isLast⟩ := List.eq_nil_or_concat' writes |>.resolve_left delivers.written
  obtain ⟨left, offer, -, rest⟩ := delivers.offers before x [] isLast
  have taken : x.taken <+: left := by
    obtain ⟨thread, call, reply⟩ := x
    obtain rfl : call = .write left := offer
    rw [Exchange.taken_write]
    exact List.take_prefix _ _
  rw [isLast, rest, List.flatMap_append, List.flatMap_singleton]
  exact (List.prefix_append_right_inj _).2 taken

/-- What was taken is as long as the replies say. -/
theorem length_taken (delivers : Delivers bytes script writes) :
    (writes.flatMap Exchange.taken).length = (writes.map (·.reply.count)).sum := by
  rw [List.length_flatMap]
  refine congrArg List.sum (List.map_congr_left fun x isWrite => ?_)
  obtain ⟨i, lt, isX⟩ := List.getElem_of_mem isWrite
  obtain ⟨before, after, split⟩ := List.append_of_mem isWrite
  obtain ⟨left, offer, -, -⟩ := delivers.offers before x after split
  have answer := delivers.follows i x (List.getElem?_eq_some_iff.2 ⟨lt, isX⟩)
  obtain ⟨thread, call, reply⟩ := x
  obtain rfl : call = .write left := offer
  have fits : reply.count ≤ left.length := by
    rw [show reply = _ from answer]
    exact Action.count_reply_le _ (.write left)
  rw [Exchange.taken_write, List.length_take, Nat.min_eq_left fits]

/-- All is taken exactly if the counts add up to all there is. -/
theorem taken_eq_iff (delivers : Delivers bytes script writes) :
    writes.flatMap Exchange.taken = bytes ↔ (writes.map (·.reply.count)).sum = bytes.length := by
  rw [← delivers.length_taken]
  exact ⟨congrArg List.length, delivers.taken_prefix.eq_of_length⟩

/-- An interrupted write is followed by one that offers the same bytes. -/
theorem retries (delivers : Delivers bytes script writes) {before after : List Exchange}
    (split : writes = before ++ x :: after) {e : SystemError} (failed : x.reply = .failed e)
    (interrupted : e.kind = .interrupted) :
    ∃ y more, after = y :: more ∧ y.call = x.call := by
  obtain ⟨left, offer, isSome, rest⟩ := delivers.offers before x after split
  have taken : x.taken = [] := by
    rw [Exchange.taken, offer, failed]
  cases after with
  | nil =>
    exfalso
    rcases (delivers.ends before x [] split).1 rfl with took | ⟨same, final⟩ | all
    · cases failed.symm.trans took
    · cases failed.symm.trans same
      exact final interrupted
    · rw [taken, offer] at all
      exact isSome all.symm
  | cons y more =>
    refine ⟨y, more, rfl, ?_⟩
    obtain ⟨next, again, -, same⟩ := delivers.offers (before ++ [x]) y more (by simp [split])
    rw [List.flatMap_append, List.flatMap_singleton, taken, List.append_nil, rest] at same
    rw [offer, again, List.append_cancel_left same]

end Delivers

/-! ## What a script grants -/

namespace Action

/-- Whether an action puts an end to the writing of a line. -/
def givesUp : Action → Bool
  | .succeed => false
  | .take count => count = 0
  | .refuse e => e.kind ≠ .interrupted
  | .panic _ => true

/-- How many bytes an action takes at most of a line that is `size` long. -/
def grants (size : Nat) : Action → Nat
  | .succeed => size
  | .take count => count
  | _ => 0

/-- **What a script of writes grants** of a line that is `size` long: what its actions grant before
one of them gives up, and the whole line if none does. -/
def allowance (size : Nat) (script : List Action) : Nat :=
  ((script.takeWhile (!·.givesUp)).map (grants size)).sum + if script.any givesUp then 0 else size

theorem allowance_cons (size : Nat) (action : Action) (script : List Action) :
    allowance size (action :: script) =
      if action.givesUp then 0 else action.grants size + allowance size script := by
  cases h : action.givesUp <;> simp [allowance, h, Nat.add_assoc]

/-- Of fewer bytes, a script grants the same number up to their end. -/
theorem min_allowance {few many : Nat} (le : few ≤ many) (script : List Action) :
    min (allowance many script) few = min (allowance few script) few := by
  induction script with
  | nil => simp [allowance, le]
  | cons action script ih =>
    simp only [allowance_cons]
    cases h : action.givesUp with
    | true => simp
    | false =>
      cases action with
      | succeed =>
        simp only [grants, Bool.false_eq_true, if_false]
        omega
      | take count =>
        simp only [grants, Bool.false_eq_true, if_false]
        omega
      | refuse e =>
        simp only [grants, Bool.false_eq_true, if_false]
        omega
      | panic p => cases h

theorem count_reply_write (action : Action) (data : List UInt8) :
    (action.reply (.write data)).count = min (action.grants data.length) data.length := by
  cases action <;> simp [reply, Reply.count, grants, SinkCall.offered]

theorem grants_of_givesUp {action : Action} (givesUp : action.givesUp = true) (size : Nat) :
    action.grants size = 0 := by
  cases action with
  | succeed => cases givesUp
  | take count => simpa [Action.givesUp, grants] using givesUp
  | refuse e => rfl
  | panic p => rfl

/-- A write stops exactly if its action gives up or grants all that is offered. -/
theorem stops_iff {action : Action} {data : List UInt8} (some : data ≠ [])
    (calm : (action.reply (.write data)).panic? = none) (thread : Option String) :
    (⟨thread, .write data, action.reply (.write data)⟩ : Exchange).Stops ↔
      action.givesUp = true ∨ data.length ≤ action.grants data.length := by
  have pos : 0 < data.length := List.length_pos_iff.2 some
  have counted := count_reply_write action data
  constructor
  · rintro (took | ⟨failed, final⟩ | all)
    · have zero : min (action.grants data.length) data.length = 0 := by
        rw [← counted, show action.reply (.write data) = _ from took]
        rfl
      cases action with
      | succeed => exact .inr (Nat.le_refl _)
      | take count =>
        have isZero : count = 0 := by simp only [grants] at zero; omega
        exact .inl (by simp [givesUp, isZero])
      | refuse e => cases took
      | panic p => cases calm
    · cases action with
      | refuse e =>
        cases failed
        exact .inl (by simp [givesUp, final])
      | succeed => cases failed
      | take count => cases failed
      | panic p => cases calm
    · rw [Exchange.taken_write, counted] at all
      have length := congrArg List.length all
      simp only [List.length_take, SinkCall.offered] at length
      exact .inr (by omega)
  · rintro (stops | enough)
    · cases action with
      | succeed => cases stops
      | take count =>
        have zero : count = 0 := by simpa [givesUp] using stops
        exact .nothing (by simp [reply, zero])
      | refuse e => exact .failed rfl (by simpa [givesUp] using stops)
      | panic p => cases calm
    · refine .complete ?_
      rw [Exchange.taken_write, counted, Nat.min_eq_right enough]
      exact List.take_length

/-- A script that begins with a stop grants what its first action does. -/
theorem min_allowance_of_stops {size : Nat} {script : List Action}
    (stops : (script.headD .succeed).givesUp = true ∨ size ≤ (script.headD .succeed).grants size) :
    min (allowance size script) size = min ((script.headD .succeed).grants size) size := by
  cases script with
  | nil => simp [allowance, grants]
  | cons action script =>
    simp only [List.headD_cons] at stops ⊢
    rw [allowance_cons]
    split
    · next givesUp => rw [grants_of_givesUp givesUp]
    · next goesOn =>
      have enough := stops.resolve_left goesOn
      omega

/-- A script that does not begin with a stop grants what its first action does, and the rest. -/
theorem allowance_of_goesOn {size : Nat} {script : List Action}
    (goesOn : ¬ ((script.headD .succeed).givesUp = true ∨
      size ≤ (script.headD .succeed).grants size)) :
    allowance size script = (script.headD .succeed).grants size + allowance size script.tail := by
  cases script with
  | nil => exact absurd (.inr (Nat.le_refl size)) goesOn
  | cons action script =>
    have keeps : ¬ action.givesUp = true := fun givesUp => goesOn (.inl givesUp)
    rw [allowance_cons, if_neg keeps]
    rfl

end Action

/-! ## The whole greeting -/

namespace Greeter

/-- A greeting makes the call that is due and goes on with the reply. -/
theorem perform_next {g : Greeter} {call : SinkCall} (due : g.next = some call)
    (thread : Option String) (q : Queues) :
    let rest := (g.resume (q.reply call)).perform thread (q.after call)
    g.perform thread q =
      { rest with exchanges := ⟨thread, call, q.reply call⟩ :: rest.exchanges } := by
  intro rest
  rw [perform]
  split
  · next idle => simp [due] at idle
  · next made isDue =>
    obtain rfl : call = made := by simpa [due] using isDue
    rfl

theorem perform_flushing (thread : Option String) {q : Queues} (calm : q.Calm) :
    flushing.perform thread q =
      ⟨.finished, [⟨thread, .flush, q.reply .flush⟩], q.after .flush⟩ := by
  have quiet := calm.reply_panic? .flush
  have ends : flushing.resume (q.reply .flush) = .finished := by
    cases reply : q.reply .flush with
    | panicked p =>
      rw [reply] at quiet
      cases quiet
    | done count => rfl
    | failed e => rfl
  rw [perform_next rfl, ends, perform]
  simp [next]

/-- **The writes of a rest, and the flush.** The recursion is on the script: a write after which
another one follows has used up an action, though it need not have made progress. -/
theorem perform_writing (thread : Option String) (script : List Action) {q : Queues}
    (isScript : q.write = script) (calm : q.Calm) {rest : List UInt8} (some : rest ≠ []) :
    ∃ writes left,
      (writing rest).perform thread q =
        ⟨.finished, writes ++ [⟨thread, .flush, q.reply .flush⟩], left⟩ ∧
      Delivers rest script writes ∧
      writes.flatMap Exchange.taken = rest.take (Action.allowance rest.length script) := by
  let action := script.headD .succeed
  let x : Exchange := ⟨thread, .write rest, action.reply (.write rest)⟩
  have reply : q.reply (.write rest) = action.reply (.write rest) := by
    rw [Queues.reply, Queues.action, Queues.on, isScript]
  have quiet : (action.reply (.write rest)).panic? = none := reply ▸ calm.reply_panic? _
  have stops_iff : x.Stops ↔ _ := Action.stops_iff some quiet thread
  have taken : x.taken = rest.take (min (action.grants rest.length) rest.length) := by
    rw [Exchange.taken_write, action.count_reply_write]
  have step := perform_next (show (writing rest).next = _ from rfl) thread q
  rw [reply] at step
  rcases resume_write some thread quiet (action.count_reply_le _) with
    ⟨stops, flushes⟩ | ⟨goesOn, left, isSome, isLeft, goes⟩
  · rw [flushes, perform_flushing thread (calm.after _)] at step
    refine ⟨[x], _, step, .one some rfl rfl stops, ?_⟩
    rw [List.flatMap_singleton, taken, List.take_eq_take_iff,
      Action.min_allowance_of_stops (stops_iff.1 stops)]
    exact Nat.min_eq_left (Nat.min_le_right _ _)
  · have grants : action.grants rest.length < rest.length :=
      Nat.lt_of_not_le fun enough => goesOn (stops_iff.2 (.inr enough))
    have shorter : script.tail.length < script.length := by
      cases script with
      | nil => exact absurd grants (Nat.lt_irrefl _)
      | cons first later => exact Nat.lt_succ_self _
    have later : (q.after (.write rest)).write = script.tail := congrArg List.tail isScript
    obtain ⟨writes, after, performed, delivers, isTaken⟩ :=
      perform_writing thread script.tail later (calm.after _) isSome
    rw [goes, performed] at step
    refine ⟨x :: writes, after, step, .cons some rfl rfl goesOn isLeft delivers, ?_⟩
    have length : x.taken.length = action.grants rest.length := by
      rw [taken, List.length_take]
      omega
    have fewer : left.length ≤ rest.length := by
      rw [show rest = x.taken ++ left from isLeft, List.length_append]
      omega
    calc (x :: writes).flatMap Exchange.taken
        = x.taken ++ left.take (Action.allowance left.length script.tail) := by
          rw [List.flatMap_cons, isTaken]
      _ = x.taken ++ left.take (Action.allowance rest.length script.tail) := by
          rw [List.take_eq_take_iff.2 (Action.min_allowance fewer script.tail)]
      _ = (x.taken ++ left).take
            (action.grants rest.length + Action.allowance rest.length script.tail) := by
          rw [← length, List.take_length_add_append]
      _ = rest.take (Action.allowance rest.length script) := by
          rw [← Action.allowance_of_goesOn (mt stops_iff.2 goesOn)]
          exact congrArg (List.take _) isLeft.symm
termination_by script.length

/-- **A line is delivered as far as the sink lets it be.** Whatever a sink answers that does not
panic, a greeting asks it for a writer, writes, flushes once, and is finished. Each write offers
the part of the line that was not taken yet; one that is interrupted is tried again with the same
bytes; none follows one that takes nothing, fails in another way or completes the line. What was
taken is the start of the line: all of it exactly if the counts add up to its length, and always as
much as the script grants. -/
theorem line_delivered (thread : Option String) (who : Speaker) {q : Queues} (calm : q.Calm) :
    let greeted := (start who).perform thread q
    greeted.greeter = .finished ∧
    ∃ writes,
      greeted.exchanges = ⟨thread, .writer, q.reply .writer⟩ ::
        (writes ++ [⟨thread, .flush, q.reply .flush⟩]) ∧
      Delivers who.line q.write writes ∧
      (∀ before x after, writes = before ++ x :: after → ∀ e, x.reply = .failed e →
        e.kind = .interrupted ∨ e = .numbered 4 → ∃ y more, after = y :: more ∧ y.call = x.call) ∧
      writes.flatMap Exchange.taken <+: who.line ∧
      (writes.flatMap Exchange.taken = who.line ↔
        (writes.map (·.reply.count)).sum = who.line.length) ∧
      writes.flatMap Exchange.taken = who.line.take (Action.allowance who.line.length q.write) := by
  intro greeted
  obtain ⟨writes, left, performed, delivers, taken⟩ :=
    perform_writing (q := q.after .writer) thread q.write rfl (calm.after .writer) who.line_ne_nil
  have opens : (start who).resume (q.reply .writer) = .writing who.line := by
    rw [← offering_line]
    have quiet := calm.reply_panic? .writer
    cases reply : q.reply .writer with
    | panicked p =>
      rw [reply] at quiet
      cases quiet
    | done count => rfl
    | failed e => rfl
  have isGreeted : greeted = ⟨.finished, ⟨thread, .writer, q.reply .writer⟩ ::
      (writes ++ [⟨thread, .flush, q.reply .flush⟩]), left⟩ := by
    simp only [greeted]
    rw [perform_next (show (start who).next = some .writer from rfl), opens, performed]
    rfl
  rw [isGreeted]
  refine ⟨rfl, writes, rfl, delivers, ?_, delivers.taken_prefix, delivers.taken_eq_iff, taken⟩
  rintro before x after split e failed (interrupted | rfl)
  · exact delivers.retries split failed interrupted
  · exact delivers.retries split failed SystemError.kind_numbered_four

/-- A sink that takes three bytes, is interrupted twice, and then takes nothing: the line is
offered once, its rest three times, and a flush that fails ends it. -/
theorem line_delivered_cut_short :
    let q : Queues :=
      { write := [.take 3, .refuse (.bare .interrupted), .refuse (.numbered 4), .take 0, .succeed]
        flush := [.refuse .noSpace] }
    let greeted := (start .worker).perform none q
    q.Calm ∧ greeted.greeter = .finished ∧ greeted.exchanges.length = 6 ∧
      ∃ writes,
        greeted.exchanges = ⟨none, .writer, .done 0⟩ ::
          (writes ++ [⟨none, .flush, .failed .noSpace⟩]) ∧
        Delivers Speaker.worker.line q.write writes ∧
        writes.flatMap Exchange.taken = Speaker.worker.line.take 3 := by
  intro q greeted
  have calm : q.Calm := by
    intro call p
    cases call <;> simp [q, Queues.on]
  obtain ⟨finished, writes, exchanges, delivers, -, -, -, taken⟩ :=
    line_delivered none .worker calm
  exact ⟨calm, finished, by decide +kernel, writes, exchanges, delivers, taken⟩

end Greeter

end Duet
