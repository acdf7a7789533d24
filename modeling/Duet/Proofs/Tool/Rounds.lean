import Duet.Proofs.Run.Accounting
import Duet.Proofs.Tool.Saving

/-!
# Carrying out the rounds

A program hands on what is left of it, so what a part of it does is said by what it leads to: the
host later on, from which the rest is carried out (`Host.Leads`). Between the two there are runs
and lines for the log. Logging can fail only on a full standard error, and it changes nothing that
a run or a file's creation depends on.

**The rounds lead to what follows them with the summary of the last run**: all runs before it
succeeded, and it failed or was the last one asked for (`Host.leads_rounds`).
-/

namespace Duet.Tool

open CommandLine

theorem Stream.bytes_add (s : Stream) (data : List UInt8) :
    (s.add data).bytes = s.bytes ++ data := by
  simp [bytes, add]

theorem Stream.write?_eq_some {s after : Stream} {data : List UInt8}
    (wrote : s.write? data = some after) : s.isFull = false ∧ after = s.add data := by
  unfold write? at wrote
  split at wrote
  · cases wrote
  · next notFull =>
    cases wrote
    exact ⟨by simpa using notFull, rfl⟩

theorem Stream.write?_eq_none {s : Stream} {data : List UInt8} (refused : s.write? data = none) :
    s.isFull = true := by
  unfold write? at refused
  split at refused
  · assumption
  · cases refused

/-- An ending that no program asks for. -/
def Ending.IsCrash (e : Ending) : Prop :=
  e = .exited crashCode ∨ e = .killed

namespace Host

theorem isCrash_crashed (onCrash : List String) : (crashed onCrash).IsCrash := by
  unfold crashed
  split
  · exact .inl rfl
  · exact .inr rfl

/-! ## Later hosts -/

/-- A host later on, after so many runs: alike, with the same to come, and with all that was said
on the standard error still there. -/
structure Later (before after : Host) (count : Nat) : Prop where
  alike : before.Alike after
  performed : after.performed = before.performed + count
  conditions : after.conditions = before.conditions
  said : before.stderr.bytes <+: after.stderr.bytes

theorem Later.refl (h : Host) : h.Later h 0 :=
  ⟨.refl h, rfl, rfl, List.prefix_rfl⟩

theorem Later.trans {a b c : Host} {m n : Nat} (first : a.Later b m) (second : b.Later c n) :
    a.Later c (m + n) where
  alike := first.alike.trans second.alike
  performed := by rw [second.performed, first.performed, Nat.add_assoc]
  conditions := second.conditions.trans first.conditions
  said := first.said.trans second.said

/-- What a run comes to depends on nothing that changes. -/
theorem Later.roundAt {a b : Host} {n : Nat} (later : a.Later b n) (launcher : Launcher)
    (index : Nat) : b.roundAt launcher index = a.roundAt launcher index := by
  simp only [Host.roundAt, later.conditions, later.alike.stdout]

/-- Saying more on the standard error. -/
theorem later_said {h : Host} {stderr : Stream} (isFull : stderr.isFull = h.stderr.isFull)
    (said : h.stderr.bytes <+: stderr.bytes) : h.Later { h with stderr } 0 where
  alike := ⟨rfl, isFull.symm, .refl h.files, rfl, rfl⟩
  performed := rfl
  conditions := rfl
  said := said

theorem later_stderr (h : Host) (data : List UInt8) :
    h.Later { h with stderr := h.stderr.add data } 0 := by
  refine later_said rfl ?_
  rw [Stream.bytes_add]
  exact List.prefix_append _ _

/-! ## The log -/

theorem later_writeTo {h after : Host} {target : Target} {data : List UInt8}
    (wrote : h.writeTo target data = .ok after) : h.Later after 0 := by
  cases target with
  | file place =>
    cases refused : h.writeRefusal place with
    | some e =>
      simp only [writeTo, refused] at wrote
      cases wrote
    | none =>
      simp only [writeTo, refused] at wrote
      cases wrote
      exact ⟨⟨rfl, rfl, Files.alike_append _ _ _, rfl, rfl⟩, rfl, rfl, List.prefix_rfl⟩
  | device device =>
    cases device with
    | full => cases wrote
    | null =>
      cases wrote
      exact .refl h
    | terminal =>
      cases wrote
      exact .refl h
    | program =>
      cases wrote
      exact .refl h
    | stdout =>
      cases taken : h.stdout.write? data with
      | none =>
        simp only [writeTo, taken] at wrote
        cases wrote
      | some stdout =>
        obtain ⟨-, rfl⟩ := Stream.write?_eq_some taken
        simp only [writeTo, taken] at wrote
        cases wrote
        exact ⟨⟨rfl, rfl, .refl _, rfl, rfl⟩, rfl, rfl, List.prefix_rfl⟩
    | stderr =>
      cases taken : h.stderr.write? data with
      | none =>
        simp only [writeTo, taken] at wrote
        cases wrote
      | some stderr =>
        obtain ⟨-, rfl⟩ := Stream.write?_eq_some taken
        simp only [writeTo, taken] at wrote
        cases wrote
        exact later_stderr h data

theorem later_writeLog {h after : Host} {line : String} (wrote : h.writeLog line = some after) :
    h.Later after 0 := by
  unfold writeLog at wrote
  cases goesTo : h.log with
  | none =>
    simp only [goesTo] at wrote
    obtain ⟨stderr, taken, rfl⟩ := Option.map_eq_some_iff.1 wrote
    obtain ⟨-, rfl⟩ := Stream.write?_eq_some taken
    rw [← goesTo]
    exact later_stderr h _
  | some target =>
    simp only [goesTo] at wrote
    split at wrote
    · next ok =>
      cases wrote
      exact later_writeTo ok
    · cases wrote
      exact .refl h

theorem writeLog_eq_none {h : Host} {line : String} (refused : h.writeLog line = none) :
    h.stderr.isFull = true := by
  unfold writeLog at refused
  cases goesTo : h.log with
  | none =>
    simp only [goesTo] at refused
    exact Stream.write?_eq_none (Option.map_eq_none_iff.1 refused)
  | some target =>
    simp only [goesTo] at refused
    split at refused <;> cases refused

/-! ## What a program leads to -/

/-- What a host comes to on which something had to be said and the standard error is full. -/
structure Breaks (h : Host) (result : Ending × Host) : Prop where
  full : h.stderr.isFull = true
  crash : result.1.IsCrash

/-- **A program leads to another**, with so many runs in between: carrying it out comes down to
carrying out the other one later on, unless it breaks. -/
def Leads (h : Host) (program : Program) (count : Nat) (next : Program) : Prop :=
  (∃ after, h.Later after count ∧ carryOut program h = carryOut next after) ∨
    h.Breaks (carryOut program h)

theorem Leads.refl (h : Host) (program : Program) : h.Leads program 0 program :=
  .inl ⟨h, .refl h, rfl⟩

theorem Leads.trans {h : Host} {p q r : Program} {m n : Nat} (first : h.Leads p m q)
    (second : ∀ after, h.Later after m → after.Leads q n r) : h.Leads p (m + n) r := by
  rcases first with ⟨middle, later, eq⟩ | crash
  · rcases second middle later with ⟨after, rest, eq'⟩ | ⟨full, crash⟩
    · exact .inl ⟨after, later.trans rest, eq.trans eq'⟩
    · refine .inr ⟨later.alike.stderr.trans full, ?_⟩
      rw [eq]
      exact crash
  · exact .inr crash

theorem leads_log (h : Host) (line : String) (onCrash : List String) (next : Program) :
    h.Leads (.log line onCrash next) 0 next := by
  cases wrote : h.writeLog line with
  | none =>
    refine .inr ⟨writeLog_eq_none wrote, ?_⟩
    simp only [carryOut, wrote]
    exact isCrash_crashed onCrash
  | some after => exact .inl ⟨after, later_writeLog wrote, by simp only [carryOut, wrote]⟩

theorem leads_logEvent (h : Host) (filter : Log.Filter) (insideRun : Bool) (onCrash : List String)
    (event : Log.Event) (next : Program) :
    h.Leads (Program.logEvent filter insideRun onCrash event next) 0 next := by
  unfold Program.logEvent
  split
  · exact leads_log h _ _ _
  · exact .refl h next

theorem leads_logEvents (h : Host) (filter : Log.Filter) (onCrash : List String)
    (events : List Log.Event) (next : Program) :
    h.Leads (events.foldr (Program.logEvent filter true onCrash) next) 0 next := by
  induction events generalizing h with
  | nil => exact .refl h next
  | cons event events ih =>
    exact (leads_logEvent h filter true onCrash event _).trans fun after _ => ih after

theorem leads_logRun (h : Host) (filter : Log.Filter) (account : Account) (next : Program) :
    h.Leads (Program.logRun filter account next) 0 next :=
  (leads_logEvents h filter _ account.held _).trans fun after _ =>
    leads_logEvents after filter [] account.later next

/-! ## Runs -/

/-- The runs of the tool are reported, also if the standard output is full. -/
theorem reported_roundAt (h : Host) (launcher : Launcher) (index : Nat) :
    (h.roundAt launcher index).Reported launcher (h.conditions index) := by
  unfold roundAt
  refine (Round.reported_perform ?_ _).1
  intro call p isPanic
  split at isPanic
  · cases call <;> simp [Script.refusing, Queues.on] at isPanic
  · cases call <;> simp [Queues.on] at isPanic

/-- **A row of runs**, at most `most`: so many succeed before the last one, which leaves an account.
It fails, or there are no more to perform. -/
structure Performs (h : Host) (launcher : Launcher) (most before : Nat) (last : Account) :
    Prop where
  lt : before < most
  earlier : ∀ i < before, ∃ account,
    (h.roundAt launcher (h.performed + i)).result = .ok account ∧
      account.summary.status = .success
  final : (h.roundAt launcher (h.performed + before)).result = .ok last
  stops : last.summary.status ≠ .success ∨ before + 1 = most

/-- What a row of runs comes to depends on nothing that changes. -/
theorem Later.performs_iff {h after : Host} (later : h.Later after 0) {launcher : Launcher}
    {most before : Nat} {last : Account} :
    after.Performs launcher most before last ↔ h.Performs launcher most before last := by
  have same : after.performed = h.performed := later.performed
  constructor
  · rintro ⟨lt, earlier, final, stops⟩
    simp only [later.roundAt, same] at earlier final
    exact ⟨lt, earlier, final, stops⟩
  · rintro ⟨lt, earlier, final, stops⟩
    refine ⟨lt, ?_, ?_, stops⟩ <;> simpa only [later.roundAt, same]

/-- A row is its first run alone, or a first run that succeeds and a row after it. -/
theorem performs_succ_iff {h : Host} {launcher : Launcher} {most before : Nat}
    {first last : Account} (result : (h.roundAt launcher h.performed).result = .ok first)
    {after : Host} (later : h.Later after 1) :
    h.Performs launcher (most + 1) before last ↔
      (before = 0 ∧ last = first ∧ (first.summary.status ≠ .success ∨ most = 0)) ∨
      (first.summary.status = .success ∧ ∃ fewer, before = fewer + 1 ∧
        after.Performs launcher most fewer last) := by
  have index (i : Nat) : after.performed + i = h.performed + (i + 1) := by
    rw [later.performed]
    omega
  constructor
  · rintro ⟨lt, earlier, final, stops⟩
    cases before with
    | zero =>
      obtain rfl : first = last := Except.ok.inj (result.symm.trans final)
      exact .inl ⟨rfl, rfl, stops.imp id fun same => (Nat.succ.inj same).symm⟩
    | succ fewer =>
      obtain ⟨account, isFirst, succeeds⟩ := earlier 0 (Nat.succ_pos fewer)
      obtain rfl : first = account := Except.ok.inj (result.symm.trans isFirst)
      refine .inr ⟨succeeds, fewer, rfl, Nat.lt_of_succ_lt_succ lt, ?_, ?_, ?_⟩
      · intro i isLt
        rw [later.roundAt, index]
        exact earlier (i + 1) (Nat.succ_lt_succ isLt)
      · rw [later.roundAt, index]
        exact final
      · exact stops.imp id Nat.succ.inj
  · rintro (⟨rfl, rfl, stops⟩ | ⟨succeeds, fewer, rfl, lt, earlier, final, stops⟩)
    · refine ⟨Nat.succ_pos most, fun i isLt => absurd isLt (Nat.not_lt_zero i), result, ?_⟩
      exact stops.imp id fun none => by rw [none]
    · refine ⟨Nat.succ_lt_succ lt, ?_, ?_, stops.imp id (congrArg (· + 1))⟩
      · intro i isLt
        cases i with
        | zero => exact ⟨first, result, succeeds⟩
        | succ i =>
          rw [← index, ← later.roundAt]
          exact earlier i (Nat.lt_of_succ_lt_succ isLt)
      · rw [← index, ← later.roundAt]
        exact final

/-- The last run of a row leaves a summary with the code of its status. -/
theorem Performs.code {h : Host} {launcher : Launcher} {most before : Nat} {last : Account}
    (performs : h.Performs launcher most before last) :
    last.summary.code = last.summary.status.code := by
  obtain ⟨account, _, _, result, -, tells, -⟩ :=
    reported_roundAt h launcher (h.performed + before)
  rw [performs.final] at result
  cases result
  exact tells.code

/-! ## Rounds -/

theorem later_performRound (h : Host) (launcher : Launcher) :
    h.Later (h.performRound launcher).1 1 :=
  ⟨⟨rfl, rfl, .refl _, rfl, rfl⟩, rfl, rfl, List.prefix_rfl⟩

theorem leads_round (h : Host) (launcher : Launcher) (next : Account → Program) :
    ∃ account, (h.roundAt launcher h.performed).result = .ok account ∧
      h.Leads (.round launcher next) 1 (next account) := by
  obtain ⟨account, -, -, result, -⟩ := reported_roundAt h launcher h.performed
  refine ⟨account, result, .inl ⟨_, later_performRound h launcher, ?_⟩⟩
  simp only [carryOut, performRound, result]

theorem exists_performs (h : Host) (launcher : Launcher) {most : Nat} (pos : 0 < most) :
    ∃ before last, h.Performs launcher most before last := by
  induction most generalizing h with
  | zero => exact absurd pos (Nat.lt_irrefl 0)
  | succ most ih =>
    have later := later_performRound h launcher
    obtain ⟨account, -, -, result, -⟩ := reported_roundAt h launcher h.performed
    by_cases goesOn : account.summary.status = .success ∧ 0 < most
    · obtain ⟨before, last, performs⟩ := ih (h.performRound launcher).1 goesOn.2
      exact ⟨before + 1, last,
        (performs_succ_iff result later).2 (.inr ⟨goesOn.1, before, rfl, performs⟩)⟩
    · refine ⟨0, account, (performs_succ_iff result later).2 (.inl ⟨rfl, rfl, ?_⟩)⟩
      by_cases succeeds : account.summary.status = .success
      · exact .inr (Nat.eq_zero_of_not_pos fun more => goesOn ⟨succeeds, more⟩)
      · exact .inl succeeds

/-- **The rounds** lead to what follows them, with the summary of the last run. -/
theorem leads_rounds {h : Host} {launcher : Launcher} {more before : Nat} {last : Account}
    (performs : h.Performs launcher (more + 1) before last) (filter : Log.Filter)
    (next : Summary → Program) (number : Nat) :
    h.Leads (Program.rounds filter launcher next number more) (1 + before)
      (next last.summary) := by
  induction more generalizing h number before with
  | zero =>
    obtain ⟨account, result, leads⟩ := leads_round h launcher fun account =>
      Program.logRun filter account (Program.stop filter number account.summary next)
    have later := later_performRound h launcher
    rcases (performs_succ_iff result later).1 performs with ⟨rfl, rfl, -⟩ | ⟨-, fewer, -, none⟩
    · exact leads.trans fun after _ => (leads_logRun after filter _ _).trans fun after _ =>
        leads_logEvent after filter false [] _ _
    · exact absurd none.lt (Nat.not_lt_zero fewer)
  | succ more ih =>
    obtain ⟨account, result, leads⟩ := leads_round h launcher fun account =>
      Program.logRun filter account
        (if account.summary.status.isSuccess then
          Program.rounds filter launcher next (number + 1) more
        else Program.stop filter number account.summary next)
    have later := later_performRound h launcher
    rcases (performs_succ_iff result later).1 performs with
      ⟨rfl, rfl, fails | none⟩ | ⟨succeeds, fewer, rfl, -⟩
    · simp only [Status.isSuccess, fails, decide_false] at leads
      exact leads.trans fun after _ => (leads_logRun after filter _ _).trans fun after _ =>
        leads_logEvent after filter false [] _ _
    · exact absurd none (Nat.succ_ne_zero more)
    · simp only [Status.isSuccess, succeeds, decide_true, if_true] at leads
      -- The rest is performed from the host after the log of this run.
      have rest : h.Leads _ (1 + (0 + (1 + fewer))) (next last.summary) :=
        leads.trans fun after first => (leads_logRun after filter account _).trans
          fun after logged => by
            have isOne : h.Later after (1 + 0) := first.trans logged
            rcases (performs_succ_iff result isOne).1 performs with ⟨none, -⟩ | ⟨-, n, same, rest⟩
            · cases none
            · cases same
              exact ih rest (number + 1)
      rwa [Nat.zero_add, Nat.add_comm 1 fewer] at rest

/-- **The whole of the runs** leads to the report on the last of them. -/
theorem leads_perform {h : Host} {settings : RunSettings} {before : Nat} {last : Account}
    (performs : h.Performs (.stock settings.fault) settings.rounds before last)
    (coloured : Bool) (filter : Log.Filter) :
    h.Leads (Program.perform coloured filter settings) (1 + before)
      (Program.conclude coloured settings last.summary) := by
  have pos : 0 < settings.rounds := Nat.zero_lt_of_lt performs.lt
  have most : settings.rounds = settings.rounds - 1 + 1 := (Nat.sub_add_cancel pos).symm
  rw [most] at performs
  unfold Program.perform
  cases asked : settings.fault with
  | none =>
    rw [asked] at performs
    exact leads_rounds performs filter _ 1
  | some fault =>
    rw [asked] at performs
    rw [← Nat.zero_add (1 + before)]
    exact (leads_logEvent h filter false [] _ _).trans fun after logged =>
      leads_rounds (logged.performs_iff.2 performs) filter _ 1

end Host

end Duet.Tool
