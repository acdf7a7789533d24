import Duet.Proofs.Run.WholeLines
import Duet.Proofs.Tool.Rounds
import Mathlib.Data.Nat.Init

/-!
# Repeating runs until one fails

The rounds are counted by a machine word that starts at one, grows by one after each run that
succeeds, and is compared with the number of rounds that were asked for, for equality only. Nothing
but this comparison keeps it from running on and over (`Program.repeatedly`). What the runs come to
is left open: it is a sequence without an end, of which the rounds look at one account after the
other (`Program.Reaches`).

**The rounds stop at the first run that fails, and at the last one asked for if none does; their
counter is the number of the round throughout** (`Host.rounds_until_failure`). What has been said by
then are the greetings of these runs, one run after the other.
-/

/-! ## One run on its own -/

namespace Duet.Plan

/-- What a run says alone: the caller's line, and the worker's if there is a worker. -/
theorem output_alone (p : Plan) :
    (Round.perform { roster := { current := p.launcher } } p.conditions).output =
      Speaker.caller.line ++ if p.hires then Speaker.worker.line else [] := by
  have calm : Greeter.finished.panic? = none := rfl
  simp only [Round.perform, Script.greet_empty, calm, Round.second]
  cases launched : p.launched with
  | error failure =>
    have spawned : p.launcher.spawn .worker p.conditions.refusal = .error failure := launched
    rw [hires_of_error launched]
    simp [spawned, Except.toOption, Round.output, Round.exchanges, List.filterMap_map,
      Greeter.taken_perform_start]
  | ok handle =>
    have spawned : p.launcher.spawn .worker p.conditions.refusal = .ok handle := launched
    have inner := launched_eq_ok launched
    rw [hires_of_ok launched]
    simp [spawned, inner, Except.toOption, Round.work, Script.greet_empty, Round.output,
      Round.exchanges, List.filterMap_append, List.filterMap_map, Greeter.taken_perform_start]

theorem spawnFailed_iff (p : Plan) {account : Account} (alone : p.alone = .ok account) :
    account.summary.status = .spawnFailed ↔ p.hires = false := by
  rw [alone_eq] at alone
  cases alone
  have tells : Summary.Tells _ (p.launcher.spawn .worker p.conditions.refusal) none :=
    Summary.tells_ofOutcome p.launched none p.conditions.elapsed
  rw [(tells.localized rfl).spawnFailed_iff]
  rcases tells.cases with ⟨e, refused, -, -, spawned, -⟩ | ⟨_, _, ok, -, -, -, spawned, -⟩ |
    ⟨_, ok, -, -, -, spawned, -⟩
  · simp [spawned, hires_of_error refused]
  · simp [spawned, hires_of_ok ok]
  · simp [spawned, hires_of_ok ok]

end Duet.Plan

namespace Duet.Tool

namespace Program

variable (filter : Log.Filter) (launcher : Launcher) (next : Summary → Program)

/-! ## Counting with a word -/

/-- The distance to a word, around if need be, shrinks with every step that starts elsewhere. -/
theorem toNat_sub_succ_lt {most round : UInt64} (ne : round ≠ most) :
    (most - (round + 1)).toNat < (most - round).toNat := by
  have apart : round.toNat ≠ most.toNat := fun same => ne (UInt64.toNat_inj.1 same)
  have small := round.toNat_lt
  have bound := most.toNat_lt
  rw [UInt64.toNat_sub, UInt64.toNat_sub, UInt64.toNat_add]
  simp only [UInt64.toNat_one]
  omega

/-- Performs runs until one fails or the counter has come to `most`. -/
def repeatedly (most round : UInt64) : Program :=
  .round launcher fun account =>
    logRun filter account
      (if _more : account.summary.status.isSuccess ∧ round ≠ most then
        repeatedly most (round + 1)
      else stop filter round.toNat account.summary next)
termination_by (most - round).toNat
decreasing_by exact toNat_sub_succ_lt _more.2

/-- A counter that has not come to the end can be counted up. -/
theorem toNat_succ {most round : UInt64} (lt : round < most) :
    (round + 1).toNat = round.toNat + 1 := by
  have bound := most.toNat_lt
  have lt : round.toNat < most.toNat := UInt64.lt_iff_toNat_lt.1 lt
  rw [UInt64.toNat_add, UInt64.toNat_one]
  omega

theorem succ_le {most round : UInt64} (lt : round < most) : round + 1 ≤ most := by
  rw [UInt64.le_iff_toNat_le, toNat_succ lt]
  exact UInt64.lt_iff_toNat_lt.1 lt

/-- **The rounds are counted by a word**: the tool's own, which know how many are left, are the
ones that compare a counter with the number asked for. -/
theorem repeatedly_eq_rounds {most round : UInt64} (le : round ≤ most) :
    repeatedly filter launcher next most round =
      rounds filter launcher next round.toNat (most.toNat - round.toNat) := by
  rw [repeatedly]
  have isLe : round.toNat ≤ most.toNat := UInt64.le_iff_toNat_le.1 le
  by_cases isLast : round = most
  · subst isLast
    simp [rounds]
  · have lt : round < most := UInt64.lt_of_le_of_ne le isLast
    have isLt : round.toNat < most.toNat := UInt64.lt_iff_toNat_lt.1 lt
    obtain ⟨more, left⟩ : ∃ more, most.toNat - round.toNat = more + 1 :=
      ⟨most.toNat - round.toNat - 1, by omega⟩
    have rest : most.toNat - (round + 1).toNat = more := by
      rw [toNat_succ lt]
      omega
    rw [left, rounds, repeatedly_eq_rounds (succ_le lt), rest, toNat_succ lt]
    simp [isLast]
termination_by (most - round).toNat
decreasing_by exact toNat_sub_succ_lt isLast

/-! ## Programs and what their runs come to -/

variable {launcher next}

/-- **A program reaches another** from before one round to before another, if the runs come to the
given accounts: it gets past its runs and past what it logs. -/
inductive Reaches (launcher : Launcher) (outcomes : Nat → Account) :
    Nat → Program → Nat → Program → Prop where
  | here (i : Nat) (p : Program) : Reaches launcher outcomes i p i p
  | log {line : String} {onCrash : List String} {next q : Program} {i j : Nat}
    (rest : Reaches launcher outcomes i next j q) :
    Reaches launcher outcomes i (.log line onCrash next) j q
  | round {next : Account → Program} {q : Program} {i j : Nat}
    (rest : Reaches launcher outcomes (i + 1) (next (outcomes i)) j q) :
    Reaches launcher outcomes i (.round launcher next) j q

namespace Reaches

variable {outcomes : Nat → Account} {p q r : Program} {i j k : Nat}

theorem trans (first : Reaches launcher outcomes i p j q)
    (second : Reaches launcher outcomes j q k r) : Reaches launcher outcomes i p k r := by
  induction first with
  | here i p => exact second
  | log rest ih => exact .log (ih second)
  | round rest ih => exact .round (ih second)

theorem le (reaches : Reaches launcher outcomes i p j q) : i ≤ j := by
  induction reaches with
  | here i p => exact Nat.le_refl i
  | log rest ih => exact ih
  | round rest ih => exact Nat.le_of_succ_le ih

/-- The accounts decide everything, so of two places that are reached one is on the way to the
other. -/
theorem linear (first : Reaches launcher outcomes i p j q)
    (second : Reaches launcher outcomes i p k r) :
    Reaches launcher outcomes j q k r ∨ Reaches launcher outcomes k r j q := by
  induction first with
  | here i p => exact .inl second
  | log rest ih =>
    cases second with
    | here => exact .inr (.log rest)
    | log other => exact ih other
  | round rest ih =>
    cases second with
    | here => exact .inr (.round rest)
    | round other => exact ih other

end Reaches

section

variable (outcomes : Nat → Account) (i : Nat)

theorem reaches_logEvent (insideRun : Bool) (onCrash : List String) (event : Log.Event)
    (next : Program) :
    Reaches launcher outcomes i (logEvent filter insideRun onCrash event next) i next := by
  unfold logEvent
  split
  · exact .log (.here i next)
  · exact .here i next

theorem reaches_logEvents (onCrash : List String) (events : List Log.Event) (next : Program) :
    Reaches launcher outcomes i (events.foldr (logEvent filter true onCrash) next) i next := by
  induction events with
  | nil => exact .here i next
  | cons event events ih => exact (reaches_logEvent filter outcomes i true onCrash event _).trans ih

theorem reaches_logRun (account : Account) (next : Program) :
    Reaches launcher outcomes i (logRun filter account next) i next :=
  (reaches_logEvents filter outcomes i _ account.held _).trans
    (reaches_logEvents filter outcomes i [] account.later next)

end

/-! ## The last round -/

/-- **Where rounds stop** that come to the given accounts: at the first that does not succeed, or at
the last one asked for. -/
structure StopsAt (outcomes : Nat → Account) (most k : Nat) : Prop where
  pos : 1 ≤ k
  le : k ≤ most
  earlier : ∀ i, 1 ≤ i → i < k → (outcomes i).summary.status = .success
  stops : (outcomes k).summary.status ≠ .success ∨ k = most

/-- There is one such round only. -/
theorem StopsAt.unique {outcomes : Nat → Account} {most k k' : Nat}
    (here : StopsAt outcomes most k) (there : StopsAt outcomes most k') : k = k' := by
  have notBefore {k k' : Nat} (here : StopsAt outcomes most k) (there : StopsAt outcomes most k') :
      ¬ k < k' := by
    intro lt
    have succeeds := there.earlier k here.pos lt
    have isLast := here.stops.resolve_left (not_not_intro succeeds)
    have le := there.le
    omega
  exact Nat.le_antisymm (Nat.not_lt.1 (notBefore there here)) (Nat.not_lt.1 (notBefore here there))

theorem exists_stopsAt (outcomes : Nat → Account) {most : Nat} (pos : 1 ≤ most) :
    ∃ k, StopsAt outcomes most k := by
  induction most, pos using Nat.le_induction with
  | base =>
    refine ⟨1, Nat.le_refl 1, Nat.le_refl 1, fun i isPos isLt => ?_, .inr rfl⟩
    omega
  | succ most pos ih =>
    obtain ⟨k, stopsAt⟩ := ih
    by_cases fails : (outcomes k).summary.status = .success
    · -- The rounds came to the end of those asked for before; there is one more now.
      obtain rfl := stopsAt.stops.resolve_left (not_not_intro fails)
      refine ⟨k + 1, Nat.succ_pos k, Nat.le_refl _, fun i isPos isLt => ?_, .inr rfl⟩
      rcases Nat.lt_succ_iff_lt_or_eq.1 isLt with earlier | rfl
      · exact stopsAt.earlier i isPos earlier
      · exact fails
    · exact ⟨k, stopsAt.pos, Nat.le_succ_of_le stopsAt.le, stopsAt.earlier, .inl fails⟩

section

variable {outcomes : Nat → Account} {most round : UInt64}

/-- **A round that succeeds before the last** is followed by the next one, with the counter one
up. -/
theorem reaches_next (lt : round < most)
    (succeeds : (outcomes round.toNat).summary.status = .success) :
    Reaches launcher outcomes round.toNat (repeatedly filter launcher next most round)
      (round.toNat + 1) (repeatedly filter launcher next most (round + 1)) := by
  rw [repeatedly]
  refine .round ?_
  rw [dif_pos ⟨by simp [Status.isSuccess, succeeds], UInt64.ne_of_lt lt⟩]
  exact reaches_logRun filter outcomes _ _ _

/-- **A round that fails or is the last** is followed by the end, with its summary. -/
theorem reaches_end
    (stops : (outcomes round.toNat).summary.status ≠ .success ∨ round = most) :
    Reaches launcher outcomes round.toNat (repeatedly filter launcher next most round)
      (round.toNat + 1) (next (outcomes round.toNat).summary) := by
  rw [repeatedly]
  refine .round ?_
  rw [dif_neg]
  · exact (reaches_logRun filter outcomes _ _ _).trans
      (reaches_logEvent filter outcomes _ false [] _ _)
  · rintro ⟨succeeds, ne⟩
    exact stops.elim (fun fails => fails (by simpa [Status.isSuccess] using succeeds)) ne

/-- **The counter is the number of the round**, in every round up to the last, and so it never gets
past the number of rounds asked for. The induction is on the round. -/
theorem reaches_round {k : Nat} (stopsAt : StopsAt outcomes most.toNat k) {i : Nat} (pos : 1 ≤ i)
    (le : i ≤ k) :
    ∃ round : UInt64, round.toNat = i ∧ round ≤ most ∧
      Reaches launcher outcomes 1 (repeatedly filter launcher next most 1) i
        (repeatedly filter launcher next most round) := by
  induction i, pos using Nat.le_induction with
  | base =>
    refine ⟨1, rfl, ?_, .here _ _⟩
    rw [UInt64.le_iff_toNat_le]
    exact Nat.le_trans le stopsAt.le
  | succ i pos ih =>
    obtain ⟨round, rfl, -, reaches⟩ := ih (Nat.le_of_succ_le le)
    have lt : round < most := UInt64.lt_iff_toNat_lt.2 (Nat.lt_of_lt_of_le le stopsAt.le)
    have succeeds := stopsAt.earlier round.toNat pos le
    exact ⟨round + 1, toNat_succ lt, succ_le lt,
      reaches.trans (reaches_next filter lt succeeds)⟩

/-- **The rounds end after the last**, with its summary. -/
theorem reaches_last {k : Nat} (stopsAt : StopsAt outcomes most.toNat k) :
    Reaches launcher outcomes 1 (repeatedly filter launcher next most 1) (k + 1)
      (next (outcomes k).summary) := by
  obtain ⟨round, rfl, -, reaches⟩ := reaches_round filter stopsAt stopsAt.pos (Nat.le_refl k)
  refine reaches.trans (reaches_end filter ?_)
  exact stopsAt.stops.imp id UInt64.toNat_inj.1

/-- **What is to be said of rounds**, at most `most`, that come to the given accounts: they stop
where they have to; up to there the counter is the number of the round; they end after the last with
its summary; and nothing is reached beyond it but by way of what follows. -/
structure Repeats (filter : Log.Filter) (launcher : Launcher) (next : Summary → Program)
    (most : UInt64) (outcomes : Nat → Account) (start : Program) (k : Nat) : Prop where
  stopsAt : StopsAt outcomes most.toNat k
  counts : ∀ i, 1 ≤ i → i ≤ k → ∃ round : UInt64, round.toNat = i ∧ round ≤ most ∧
    Reaches launcher outcomes 1 start i (repeatedly filter launcher next most round)
  returns : Reaches launcher outcomes 1 start (k + 1) (next (outcomes k).summary)
  nothingMore : ∀ j q, Reaches launcher outcomes 1 start j q →
    j ≤ k + 1 ∨ Reaches launcher outcomes (k + 1) (next (outcomes k).summary) j q

theorem repeats_rounds (launcher : Launcher) (next : Summary → Program) {k : Nat} (pos : 0 < most)
    (stopsAt : StopsAt outcomes most.toNat k) :
    Repeats filter launcher next most outcomes
      (rounds filter launcher next 1 (most.toNat - 1)) k := by
  have one : (1 : UInt64) ≤ most := by
    rw [UInt64.le_iff_toNat_le]
    exact UInt64.lt_iff_toNat_lt.1 pos
  have same := repeatedly_eq_rounds filter launcher next one
  rw [UInt64.toNat_one] at same
  rw [← same]
  have last : Reaches launcher outcomes 1 (repeatedly filter launcher next most 1) (k + 1)
      (next (outcomes k).summary) := reaches_last filter stopsAt
  refine ⟨stopsAt, fun i isPos le => reaches_round filter stopsAt isPos le, last, ?_⟩
  intro j q reaches
  rcases last.linear reaches with beyond | before
  · exact .inr beyond
  · exact .inl before.le

end

end Program

namespace Host

/-! ## What is said on the standard output -/

/-- **What the standard output got** between two hosts: what runs have said, in their order, and
nothing else unless the log goes there. -/
structure Speaks (before after : Host) (outputs : List (List UInt8)) : Prop where
  log : after.log = before.log
  said : ∃ new : List (List UInt8), after.stdout.bytes = before.stdout.bytes ++ new.flatten ∧
    outputs.Sublist new ∧ (before.log ≠ some (.device .stdout) → new = outputs)

theorem Speaks.refl (h : Host) : h.Speaks h [] :=
  ⟨rfl, [], by simp, .slnil, fun _ => rfl⟩

theorem Speaks.trans {a b c : Host} {first second : List (List UInt8)} (before : a.Speaks b first)
    (after : b.Speaks c second) : a.Speaks c (first ++ second) := by
  obtain ⟨new, bytes, within, exactly⟩ := before.said
  obtain ⟨more, later, withinToo, exactlyToo⟩ := after.said
  refine ⟨after.log.trans before.log, new ++ more, ?_, within.append withinToo, ?_⟩
  · rw [later, bytes, List.flatten_append, List.append_assoc]
  · intro elsewhere
    rw [exactly elsewhere, exactlyToo (by rwa [before.log])]

theorem speaks_writeTo {h after : Host} {target : Target} {data : List UInt8}
    (goesTo : h.log = some target) (wrote : h.writeTo target data = .ok after) :
    h.Speaks after [] := by
  unfold writeTo at wrote
  split at wrote
  · split at wrote
    · cases wrote
    · cases wrote
      exact ⟨rfl, [], by simp, .slnil, fun _ => rfl⟩
  · cases wrote
  · split at wrote
    · next stdout taken =>
      obtain ⟨-, rfl⟩ := Stream.write?_eq_some taken
      cases wrote
      refine ⟨rfl, [data], ?_, List.nil_sublist _, fun elsewhere => absurd goesTo elsewhere⟩
      simp [Stream.bytes_add]
    · cases wrote
  · split at wrote
    · cases wrote
      exact ⟨rfl, [], by simp, .slnil, fun _ => rfl⟩
    · cases wrote
  · cases wrote
    exact .refl h

theorem speaks_writeLog {h after : Host} {line : String} (wrote : h.writeLog line = some after) :
    h.Speaks after [] := by
  unfold writeLog at wrote
  cases goesTo : h.log with
  | none =>
    simp only [goesTo] at wrote
    obtain ⟨stderr, -, rfl⟩ := Option.map_eq_some_iff.1 wrote
    exact ⟨goesTo.symm, [], by simp, .slnil, fun _ => rfl⟩
  | some target =>
    simp only [goesTo] at wrote
    split at wrote
    · next ok =>
      cases wrote
      exact speaks_writeTo goesTo ok
    · cases wrote
      exact .refl h

theorem speaks_performRound (h : Host) (launcher : Launcher) :
    h.Speaks (h.performRound launcher).1 [(h.roundAt launcher h.performed).output] :=
  ⟨rfl, _, by simp [performRound, Stream.bytes_add], .refl _, fun _ => rfl⟩

/-- What the next runs say, so many of them. -/
def outputs (h : Host) (launcher : Launcher) (count : Nat) : List (List UInt8) :=
  (List.range count).map fun n => (h.roundAt launcher (h.performed + n)).output

theorem outputs_succ {h after : Host} (later : h.Later after 1) (launcher : Launcher)
    (count : Nat) :
    h.outputs launcher (count + 1) =
      (h.roundAt launcher h.performed).output :: after.outputs launcher count := by
  simp only [outputs, List.range_succ_eq_map, List.map_cons, List.map_map, Nat.add_zero,
    List.cons.injEq, true_and]
  refine List.map_congr_left fun n _ => ?_
  rw [later.roundAt, later.performed, Function.comp_apply, Nat.add_assoc, Nat.add_comm 1 n]

theorem Later.outputs_eq {h after : Host} (later : h.Later after 0) (launcher : Launcher)
    (count : Nat) : after.outputs launcher count = h.outputs launcher count := by
  simp only [outputs, later.roundAt, later.performed, Nat.add_zero]

/-- **What a program reaches it leads to** on a host whose runs come to the accounts, and what is
said in between is what these runs say. -/
theorem carryOut_reaches {launcher : Launcher} {outcomes : Nat → Account} {p q : Program}
    {i j : Nat} (reaches : Program.Reaches launcher outcomes i p j q) {h : Host}
    (come : ∀ n, (h.roundAt launcher (h.performed + n)).result = .ok (outcomes (i + n))) :
    (∃ after, h.Later after (j - i) ∧ h.Speaks after (h.outputs launcher (j - i)) ∧
      carryOut p h = carryOut q after) ∨ h.Breaks (carryOut p h) := by
  induction reaches generalizing h with
  | here i p =>
    rw [Nat.sub_self]
    exact .inl ⟨h, .refl h, .refl h, rfl⟩
  | @log line onCrash next q i j rest ih =>
    cases wrote : h.writeLog line with
    | none =>
      refine .inr ⟨writeLog_eq_none wrote, ?_⟩
      simp only [carryOut, wrote]
      exact isCrash_crashed onCrash
    | some middle =>
      have later := later_writeLog wrote
      have same : carryOut (.log line onCrash next) h = carryOut next middle := by
        simp only [carryOut, wrote]
      rw [same]
      rcases ih (fun n => by rw [later.roundAt, later.performed]; exact come n) with
        ⟨after, rest, spoken, eq⟩ | ⟨full, crash⟩
      · rw [later.outputs_eq] at spoken
        refine .inl ⟨after, ?_, (speaks_writeLog wrote).trans spoken, eq⟩
        rw [← Nat.zero_add (j - i)]
        exact later.trans rest
      · exact .inr ⟨later.alike.stderr.trans full, crash⟩
  | @round next q i j rest ih =>
    have first : (h.roundAt launcher h.performed).result = .ok (outcomes i) := come 0
    have later := later_performRound h launcher
    have same : carryOut (.round launcher next) h
        = carryOut (next (outcomes i)) (h.performRound launcher).1 := by
      simp only [carryOut, performRound, first]
    have count : j - i = 1 + (j - (i + 1)) := by
      have := rest.le
      omega
    rw [same]
    have comeLater (n : Nat) : ((h.performRound launcher).1.roundAt launcher
        ((h.performRound launcher).1.performed + n)).result = .ok (outcomes (i + 1 + n)) := by
      rw [later.roundAt, later.performed, Nat.add_assoc, Nat.add_assoc]
      exact come (1 + n)
    rcases ih comeLater with ⟨after, rest, spoken, eq⟩ | ⟨full, crash⟩
    · refine .inl ⟨after, ?_, ?_, eq⟩
      · rw [count]
        exact later.trans rest
      · rw [count, Nat.add_comm, outputs_succ later]
        exact (speaks_performRound h launcher).trans spoken
    · exact .inr ⟨later.alike.stderr.trans full, crash⟩

/-! ## The greetings of the runs -/

/-- What the two greetings of a run come to. -/
def pattern : List UInt8 :=
  bytesOf "Hello from thread #0\nHello from thread #1\n"

/-- What a run says by its status, if all it says is taken. -/
def sayings : Status → List UInt8
  | .spawnFailed => bytesOf "Hello from thread #0\n"
  | _ => pattern

theorem sayings_eq (status : Status) :
    sayings status =
      Speaker.caller.line ++ if status = .spawnFailed then [] else Speaker.worker.line := by
  cases status <;> decide +kernel

/-- **A run on a standard output that is not full** says the caller's line, and the worker's unless
the worker could not be started. -/
theorem output_roundAt {h : Host} (takes : h.stdout.isFull = false) {fault : Option Fault}
    {index : Nat} {account : Account}
    (result : (h.roundAt (.stock fault) index).result = .ok account) :
    (h.roundAt (.stock fault) index).output = sayings account.summary.status := by
  let p : Plan := ⟨fault, h.conditions index⟩
  have isRound : h.roundAt (.stock fault) index =
      Round.perform { roster := { current := p.launcher } } p.conditions := by
    simp [roundAt, takes, p, Plan.launcher]
  rw [isRound] at result ⊢
  have hires := p.spawnFailed_iff result
  rw [p.output_alone, sayings_eq]
  cases started : p.hires <;> simp [hires, started]

/-- **A run with a fault injected does not succeed.** -/
theorem status_of_fault {h : Host} {fault : Fault} {index : Nat} {account : Account}
    (result : (h.roundAt (.faulty fault) index).result = .ok account) :
    account.summary.status ≠ .success := by
  obtain ⟨told, _, _, isTold, -, tells, -⟩ := reported_roundAt h (.faulty fault) index
  obtain rfl : told = account := Except.ok.inj (isTold.symm.trans result)
  rcases tells.cases with ⟨e, -, status, -⟩ | ⟨_, e, -, -, status, -⟩ | ⟨handle, ok, joined, -⟩
  · rw [status]
    exact e.status_ne_success
  · rw [status]
    exact e.status_ne_success
  · exfalso
    cases fault with
    | spawn => cases ok
    | join =>
      cases refusal : (h.conditions index).refusal with
      | some e =>
        rw [refusal] at ok
        cases ok
      | none =>
        rw [refusal] at ok
        cases ok
        cases joined

/-- The runs before the last have said the pattern, and the last what its status says. -/
theorem outputs_eq {h : Host} (takes : h.stdout.isFull = false) {fault : Option Fault}
    {outcomes : Nat → Account} {most k : Nat}
    (come : ∀ n, (h.roundAt (.stock fault) (h.performed + n)).result = .ok (outcomes (1 + n)))
    (stopsAt : Program.StopsAt outcomes most k) :
    h.outputs (.stock fault) k =
      List.replicate (k - 1) pattern ++ [sayings (outcomes k).summary.status] := by
  obtain ⟨before, rfl⟩ : ∃ before, k = 1 + before := Nat.exists_eq_add_of_le stopsAt.pos
  have output (n : Nat) := output_roundAt takes (come n)
  rw [Nat.add_sub_cancel_left, outputs, Nat.add_comm 1 before, List.range_succ, List.map_append,
    List.map_singleton, output, Nat.add_comm 1 before]
  congr 1
  refine List.eq_replicate_iff.2 ⟨by simp, ?_⟩
  intro said isSaid
  obtain ⟨n, isEarlier, rfl⟩ := List.mem_map.1 isSaid
  have lt : n < before := List.mem_range.1 isEarlier
  rw [output, stopsAt.earlier (1 + n) (by omega) (by omega)]
  rfl

/-- **Runs are repeated until one fails.** Let any number of rounds be asked for that a word can
hold, and let the runs come to any accounts. The rounds stop at the first that does not succeed, or
at the last one asked for if all do; up to there the counter is the number of the round, so it never
gets past the number asked for; and they end with the summary of the last, after which no run is
performed. On a host just these runs are performed, unless a full standard error breaks it, and what
they say is put out one run after the other: if all of it is taken, the two lines of each run before
the last, and those of the last, where the worker's is missing if it could not be started. If a
fault is injected, the first run is the last. -/
theorem rounds_until_failure (filter : Log.Filter) (next : Summary → Program) {most : UInt64}
    (pos : 0 < most) :
    (∀ (launcher : Launcher) (outcomes : Nat → Account), ∃ k,
      Program.Repeats filter launcher next most outcomes
        (Program.rounds filter launcher next 1 (most.toNat - 1)) k) ∧
    ∀ (fault : Option Fault) (h : Host), ∃ (outcomes : Nat → Account) (k : Nat),
      let launcher := Launcher.stock fault
      let start := Program.rounds filter launcher next 1 (most.toNat - 1)
      (∀ n, (h.roundAt launcher (h.performed + n)).result = .ok (outcomes (1 + n))) ∧
      Program.Repeats filter launcher next most outcomes start k ∧
      ((∃ after, h.Later after k ∧ h.Speaks after (h.outputs launcher k) ∧
          carryOut start h = carryOut (next (outcomes k).summary) after) ∨
        h.Breaks (carryOut start h)) ∧
      (h.stdout.isFull = false → h.outputs launcher k =
        List.replicate (k - 1) pattern ++ [sayings (outcomes k).summary.status]) ∧
      (fault.isSome → k = 1) := by
  have atLeastOne : 1 ≤ most.toNat := UInt64.lt_iff_toNat_lt.1 pos
  refine ⟨?_, ?_⟩
  · intro launcher outcomes
    obtain ⟨k, stopsAt⟩ := Program.exists_stopsAt outcomes atLeastOne
    exact ⟨k, Program.repeats_rounds filter launcher next pos stopsAt⟩
  · intro fault h
    have results (n : Nat) : ∃ account,
        (h.roundAt (.stock fault) (h.performed + n)).result = .ok account := by
      obtain ⟨account, _, _, result, -⟩ := reported_roundAt h (.stock fault) (h.performed + n)
      exact ⟨account, result⟩
    choose accounts come using results
    -- Rounds are counted from one, and the runs of a host from zero.
    let outcomes (i : Nat) := accounts (i - 1)
    have come (n : Nat) :
        (h.roundAt (.stock fault) (h.performed + n)).result = .ok (outcomes (1 + n)) := by
      rw [come n]
      simp [outcomes]
    obtain ⟨k, stopsAt⟩ := Program.exists_stopsAt outcomes atLeastOne
    have repeats := Program.repeats_rounds filter (.stock fault) next pos stopsAt
    refine ⟨outcomes, k, come, repeats, ?_, fun takes => outputs_eq takes come stopsAt, ?_⟩
    · simpa using carryOut_reaches repeats.returns come
    · intro faulty
      obtain ⟨fault, rfl⟩ := Option.isSome_iff_exists.1 faulty
      have fails := status_of_fault (come 0)
      by_contra more
      have lt : 1 < k := Nat.lt_of_le_of_ne stopsAt.pos (Ne.symm more)
      exact fails (stopsAt.earlier 1 (Nat.le_refl 1) lt)

/-- Three rounds on a system that refuses the second a thread: two are performed, and the second
says the caller's line only. -/
theorem rounds_until_failure_second :
    let h : Host := { conditions := fun n => if n = 1 then { refusal := some .noThread } else {} }
    let start := Program.rounds {} .system (fun summary => .exit summary.status.exitCode) 1 2
    (0 : UInt64) < 3 ∧ ∃ after, h.Later after 2 ∧ carryOut start h = (.exited 1, after) ∧
      after.stdout.bytes = pattern ++ bytesOf "Hello from thread #0\n" := by
  intro h start
  have pos : (0 : UInt64) < 3 := by decide
  obtain ⟨-, onHost⟩ :=
    rounds_until_failure {} (fun summary => .exit summary.status.exitCode) pos
  obtain ⟨outcomes, k, come, repeats, leads, said, -⟩ := onHost none h
  have status (n : Nat) : (h.roundAt .system n).result.toOption.map (·.summary.status)
      = some (outcomes (1 + n)).summary.status := by
    rw [← Nat.zero_add n]
    rw [show (h.roundAt .system (0 + n)).result = _ from come n]
    simp [Except.toOption]
  have first : (outcomes 1).summary.status = .success :=
    Option.some.inj ((status 0).symm.trans (by decide +kernel))
  have second : (outcomes 2).summary.status = .spawnFailed :=
    Option.some.inj ((status 1).symm.trans (by decide +kernel))
  have stopsAt : Program.StopsAt outcomes (3 : UInt64).toNat 2 := by
    refine ⟨by decide, by decide, ?_, .inl (by simp [second])⟩
    intro i isPos lt
    obtain rfl : i = 1 := by omega
    exact first
  obtain rfl : k = 2 := repeats.stopsAt.unique stopsAt
  rcases leads with ⟨after, later, spoken, eq⟩ | ⟨full, -⟩
  · refine ⟨pos, after, later, ?_, ?_⟩
    · rw [show start = Program.rounds {} (.stock none) _ 1 ((3 : UInt64).toNat - 1) from rfl, eq,
        second]
      rfl
    · obtain ⟨new, bytes, -, exactly⟩ := spoken.said
      rw [bytes, exactly (by decide), said rfl, second]
      decide +kernel
  · cases full

end Host

end Duet.Tool
