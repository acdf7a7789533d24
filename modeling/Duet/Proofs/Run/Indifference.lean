import Duet.Proofs.Run.Accounting

/-!
# What a run takes from its sink

A run looks at its sink for one thing only: whether a greeting ended in a panic. How much of a line
is taken at a time, how often a write is interrupted, where it fails and what a flush answers stays
inside the greeting.

**What calls come to is decided by the launchers, by what the system refuses, and by the panics of
the greetings** (`Round.performAll_foretold`). So two sinks that panic in the same greetings, with
the same payloads, cannot be told apart by what calls return or whom they ask for a worker
(`Round.performAll_indifferent`).

What this does not establish: that the sinks get to see the same bytes.
-/

namespace Duet

/-! ## The greetings of a run -/

/-- The exchange that an occurrence is. -/
def Occurrence.exchange? : Occurrence → Option Exchange
  | .exchange x => some x
  | .launch _ => none

namespace Round

/-- The exchanges of a speaker's greeting: the caller's stand before the launch, the worker's after
it. -/
def said (r : Round) : Speaker → List Exchange
  | .caller => (r.occurrences.takeWhile (·.exchange?.isSome)).filterMap (·.exchange?)
  | .worker => (r.occurrences.dropWhile (·.exchange?.isSome)).filterMap (·.exchange?)

/-- The panic in which the sink ended a speaker's greeting. -/
def panicOf (r : Round) (who : Speaker) : Option Panic :=
  (r.said who).findSome? Exchange.panic?

/-- The panics in which the sink ended the caller's greeting and the worker's. -/
def panics (r : Round) : Option Panic × Option Panic :=
  (r.panicOf .caller, r.panicOf .worker)

/-- The exchanges before the rest are the caller's, if the rest does not start with one more. -/
theorem said_append {r : Round} (first : List Exchange) (rest : List Occurrence)
    (occurrences : r.occurrences = first.map .exchange ++ rest)
    (starts : ∀ x, rest.head? ≠ some (.exchange x)) :
    r.said .caller = first ∧ r.said .worker = rest.filterMap (·.exchange?) := by
  have all : ∀ o ∈ first.map Occurrence.exchange, o.exchange?.isSome = true := by
    intro o isFirst
    obtain ⟨x, -, rfl⟩ := List.mem_map.1 isFirst
    rfl
  have exchanges : (first.map Occurrence.exchange).filterMap (·.exchange?) = first := by
    simp [List.filterMap_map, Occurrence.exchange?]
  rw [said, said, occurrences, List.takeWhile_append_of_pos all, List.dropWhile_append_of_pos all]
  cases rest with
  | nil => simp [exchanges]
  | cons o rest =>
    cases o with
    | exchange x => exact absurd rfl (starts x)
    | launch launcher => simp [Occurrence.exchange?]

/-- **The two ways a run goes.** The sink panics under the caller, and that is all there is to it;
or the launcher is asked, and the worker's exchanges follow. -/
theorem perform_cases (stage : Stage) (conditions : Conditions) :
    let round := perform stage conditions
    let launched := stage.roster.current.spawn .worker conditions.refusal
    (∃ panic, round.panicOf .caller = some panic ∧ round.said .worker = [] ∧
      round.launches = [] ∧ round.result = .error panic ∧ round.stage.roster = stage.roster) ∨
    (round.panicOf .caller = none ∧ round.launches = [stage.roster.current] ∧
      round.result =
        .ok (.ofOutcome launched (endingSeen launched (round.said .worker)) conditions.elapsed) ∧
      round.stage.roster = stage.roster.next) := by
  intro round launched
  let greeted := stage.script.greet (some Speaker.callingThread) .caller
  have ending : greeted.1.panic? = greeted.2.1.findSome? Exchange.panic? :=
    Script.greet_panic? stage.script (some Speaker.callingThread) .caller
  cases panicked : greeted.1.panic? with
  | some panic =>
    have isRound : round =
        ⟨greeted.2.1.map .exchange, .error panic, ⟨stage.roster, greeted.2.2⟩⟩ := by
      simp only [round, perform]
      rw [show (stage.script.greet (some Speaker.callingThread) .caller).1.panic? = some panic from
        panicked]
    obtain ⟨caller, worker⟩ := @said_append round greeted.2.1 []
      (by rw [isRound, List.append_nil]) (by simp)
    refine .inl ⟨panic, ?_, worker, ?_, ?_, ?_⟩
    · rw [panicOf, caller, ← ending, panicked]
    · simp [launches, isRound, List.filterMap_map]
    · rw [isRound]
    · rw [isRound]
  | none =>
    obtain ⟨rest, occurrences, result, roster, -⟩ :=
      second_spec { stage with script := greeted.2.2 } conditions
    have isRound : round =
        { second { stage with script := greeted.2.2 } conditions with
          occurrences := greeted.2.1.map .exchange ++ .launch stage.roster.current ::
            rest.map .exchange } := by
      simp only [round, perform]
      rw [show (stage.script.greet (some Speaker.callingThread) .caller).1.panic? = none from
        panicked, ← occurrences]
    obtain ⟨caller, worker⟩ := @said_append round greeted.2.1 _ (by rw [isRound]) (by simp)
    have worker : round.said .worker = rest := by
      simp [worker, Occurrence.exchange?, List.filterMap_map]
    refine .inr ⟨?_, ?_, ?_, ?_⟩
    · rw [panicOf, caller, ← ending, panicked]
    · simp [launches, isRound, List.filterMap_map]
    · rw [worker, isRound]
      exact result
    · rw [isRound]
      exact roster

end Round

/-! ## What calls return -/

/-- A summary without the time that was taken. -/
def Summary.untimed (s : Summary) : Summary :=
  { s with elapsed := none }

/-- An account without the time that was taken. -/
def Account.untimed (a : Account) : Account :=
  { a with summary := a.summary.untimed }

/-- Apart from the time, an account does not depend on it. -/
theorem Account.untimed_ofOutcome (launched : Except RunFailure Handle) (ending : Option Panic)
    (elapsed : Duration) :
    (ofOutcome launched ending elapsed).untimed = (ofOutcome launched ending .zero).untimed := by
  cases launched with
  | error failure => rfl
  | ok handle =>
    simp only [ofOutcome]
    cases handle.join ending <;> rfl

/-- What a caller asks a run for. -/
inductive Call where
  | status
  | summary
  deriving DecidableEq, Repr

/-- What a call returns, the time taken apart. -/
inductive Returned where
  | status (status : Status)
  | summary (summary : Summary)
  deriving DecidableEq, Repr

/-- What a call makes of the account of its run. -/
def Call.returned : Call → Account → Returned
  | .status, account => .status account.summary.status
  | .summary, account => .summary account.summary.untimed

namespace Round

/-- What calls return, one for each run, or the panics that they end in. -/
def answers (calls : List Call) (rounds : List Round) : List (Except Panic Returned) :=
  List.zipWith (fun call round => round.result.map call.returned) calls rounds

/-! ## Runs without their sink -/

/-- What a run comes to, the time taken apart, and whom it asks for a worker. -/
structure Verdict where
  result : Except Panic Account
  launches : List Launcher

/-- The verdict on a run that was performed. -/
def verdict (r : Round) : Verdict :=
  ⟨r.result.map Account.untimed, r.launches⟩

/-- The verdict on a run of which only the launcher, the system's refusal and the panics of the
greetings are known. -/
def foretell (launcher : Launcher) (refusal : Option SystemError)
    (panics : Option Panic × Option Panic) : Verdict :=
  match panics.1 with
  | some panic => ⟨.error panic, []⟩
  | none =>
    let launched := launcher.spawn .worker refusal
    let ending := (launched.toOption.bind (·.inner)).bind (·.ending panics.2)
    ⟨.ok (Account.ofOutcome launched ending .zero).untimed, [launcher]⟩

/-- The verdicts on runs in a row; a launcher is used up by each run that gets to ask it. -/
def foretellAll (roster : Roster) :
    List (Option SystemError) → List (Option Panic × Option Panic) → List Verdict
  | refusal :: refusals, panics :: more =>
    let left := if panics.1.isSome then roster else roster.next
    foretell roster.current refusal panics :: foretellAll left refusals more
  | _, _ => []

/-- **One run is as foretold**, and leaves the launchers as foretold. -/
theorem perform_foretold (stage : Stage) (conditions : Conditions) :
    let round := perform stage conditions
    round.verdict = foretell stage.roster.current conditions.refusal round.panics ∧
      round.stage.roster =
        if round.panics.1.isSome then stage.roster else stage.roster.next := by
  intro round
  rcases perform_cases stage conditions with
    ⟨panic, panicked, -, launches, result, roster⟩ | ⟨calm, launches, result, roster⟩
  · have panicked : round.panics.1 = some panic := panicked
    refine ⟨?_, by rw [panicked]; exact roster⟩
    rw [foretell, panicked, verdict, result, launches]
    rfl
  · have calm : round.panics.1 = none := calm
    refine ⟨?_, by rw [calm]; exact roster⟩
    rw [foretell, calm, verdict, result, launches, Except.map, Account.untimed_ofOutcome]
    rfl

/-- **Runs in a row are as foretold** from the panics of their greetings. -/
theorem performAll_foretold (stage : Stage) (conditions : List Conditions) :
    (performAll stage conditions).map verdict =
      foretellAll stage.roster (conditions.map (·.refusal))
        ((performAll stage conditions).map panics) := by
  induction conditions generalizing stage with
  | nil => rfl
  | cons first more ih =>
    obtain ⟨verdict, roster⟩ := perform_foretold stage first
    simp only [performAll, List.map_cons, foretellAll]
    rw [verdict, ih, roster]

/-- What calls return can be read off the verdicts. -/
theorem answers_eq (calls : List Call) (rounds : List Round) :
    answers calls rounds =
      List.zipWith (fun call v => v.result.map call.returned) calls (rounds.map verdict) := by
  have same (call : Call) (round : Round) :
      round.verdict.result.map call.returned = round.result.map call.returned := by
    rw [verdict]
    cases round.result with
    | error panic => rfl
    | ok account => cases call <;> rfl
  simp only [answers, List.zipWith_map_right, same]

/-- **A sink cannot be told by what calls return.** Let calls follow one another over one sink and
over another, with the same launchers and the same refusals of the system, and let the two sinks
panic in the same greetings with the same payloads. However they take, cut short, interrupt, refuse
or flush what they are offered, call by call the same is returned, or the same panic is passed on,
and the same launchers are asked for a worker. -/
theorem performAll_indifferent (roster : Roster) (one other : Script) (calls : List Call)
    (here there : List Conditions)
    (refusals : here.map (·.refusal) = there.map (·.refusal))
    (panics : (performAll ⟨roster, one⟩ here).map panics
      = (performAll ⟨roster, other⟩ there).map panics) :
    answers calls (performAll ⟨roster, one⟩ here)
        = answers calls (performAll ⟨roster, other⟩ there) ∧
      (performAll ⟨roster, one⟩ here).map launches
        = (performAll ⟨roster, other⟩ there).map launches := by
  have verdicts : (performAll ⟨roster, one⟩ here).map verdict
      = (performAll ⟨roster, other⟩ there).map verdict := by
    rw [performAll_foretold, performAll_foretold, refusals, panics]
  refine ⟨by rw [answers_eq, answers_eq, verdicts], ?_⟩
  have asked := congrArg (List.map Verdict.launches) verdicts
  rwa [List.map_map, List.map_map] at asked

/-- One sink cuts lines short, is interrupted, fails, and panics under writes; the other panics
under a flush and as it is asked for a writer. Three calls: one that succeeds, one that the sink
ends, and one whose worker it ends. -/
theorem performAll_indifferent_three :
    let roster := Roster.ofList [.system, .faulty .join]
    let one : Script :=
      { caller :=
          { write := [.take 3, .refuse (.bare .interrupted), .take 0, .panic (.text "full")] }
        others := { write := [.refuse .noSpace, .panic .other] } }
    let other : Script :=
      { caller := { flush := [.succeed, .panic (.text "full")] }
        others := { writer := [.succeed, .panic .other] } }
    let here : List Conditions := List.replicate 3 {}
    let calls : List Call := [.summary, .status, .summary]
    (performAll ⟨roster, one⟩ here).map panics
        = [(none, none), (some (.text "full"), none), (none, some .other)] ∧
      answers calls (performAll ⟨roster, one⟩ here)
        = answers calls (performAll ⟨roster, other⟩ here) ∧
      (performAll ⟨roster, one⟩ here).map launches
        = (performAll ⟨roster, other⟩ here).map launches := by
  intro roster one other here calls
  have onOne : (performAll ⟨roster, one⟩ here).map panics
      = [(none, none), (some (.text "full"), none), (none, some .other)] := by
    decide +kernel
  have onOther : (performAll ⟨roster, other⟩ here).map panics
      = [(none, none), (some (.text "full"), none), (none, some .other)] := by
    decide +kernel
  exact ⟨onOne,
    performAll_indifferent roster one other calls here here rfl (onOne.trans onOther.symm)⟩

end Round

end Duet
