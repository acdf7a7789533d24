import Duet.Proofs.Tool.Outcome

/-!
# What an exit code tells

The statuses of a run have the codes 0, 1 and 2. The tool has a code of its own for a log or a
summary file that fails it, and a crash has another. A command line that cannot be used, though,
ends with 2 as well, before any run.

**Code 1 is told only by a last run that could not start its worker. Code 2 is told by a last run
whose worker could not be joined, and by a command line that cannot be used**
(`Host.exit_told`), so that 2 by itself does not tell one from the other
(`Host.usage_told_as_joinFailed`).
-/

namespace Duet.Tool

open CommandLine

namespace Host

/-- The tool performed runs, the last of which ended in a status. -/
def RanTo (h : Host) (env : Scan.Environment) (args : List Argument) (status : Status)
    (result : Ending × Host) : Prop :=
  ∃ settings ready before last, Settings.read env args = .ok settings ∧
    h.opened settings.log.file = .ok ready ∧
    ready.Concludes settings.run before last result ∧ last.summary.status = status

/-- **On a command line that is in order** the exit code is that of the last run, with the log and
the summary file as asked for, or the tool's own, or there is a crash. -/
theorem exit_of_accepted {env : Scan.Environment} {args : List Argument} {settings : Settings}
    (h : Host) (accepted : Settings.read env args = .ok settings) :
    (∃ ready before last, h.opened settings.log.file = .ok ready ∧
      ready.Concludes settings.run before last (carryOut (Program.tool env args) h) ∧
      (∀ path, settings.run.summaryFile = some path →
        (ready.save path last.summary.pretty).2 = .done) ∧
      (carryOut (Program.tool env args) h).1 = .exited last.summary.status.exitCode) ∨
    (carryOut (Program.tool env args) h).1 = .exited toolFailure ∨
    (carryOut (Program.tool env args) h).1.IsCrash := by
  have started : Program.tool env args = Program.start env settings := by
    simp only [Program.tool, accepted]
  rw [started]
  rcases start_outcome h (rounds_pos accepted) env with outcome | ⟨-, crash⟩
  · unfold Outcome at outcome
    split at outcome
    · exact .inr (.inl outcome.ending)
    · next ready isOpened =>
      split at outcome
      · exact .inr (.inr (.inl outcome.ending))
      · obtain ⟨before, last, concludes⟩ := outcome
        by_cases saved : ∀ path, settings.run.summaryFile = some path →
            (ready.save path last.summary.pretty).2 = .done
        · exact .inl ⟨ready, before, last, isOpened, concludes, saved, concludes.exits saved⟩
        · simp only [Classical.not_forall] at saved
          obtain ⟨path, asked, unsaved⟩ := saved
          exact .inr (.inl (concludes.unsaved path asked unsaved))
  · exact .inr (.inr crash)

/-- **On a command line that cannot be used** nothing is performed, and the exit code is 2. -/
theorem exit_of_mistake {env : Scan.Environment} {args : List Argument} {e : UsageError}
    (h : Host) (mistaken : Settings.read env args = .error (.mistake e)) :
    h.Unstarted h.files usageFailure (carryOut (Program.tool env args) h) := by
  simp only [Program.tool, mistaken, carryOut]
  split <;> exact ⟨rfl, rfl, rfl, rfl⟩

theorem exit_of_request {env : Scan.Environment} {args : List Argument} {request : Request}
    (h : Host) (asked : Settings.read env args = .error (.request request)) :
    (carryOut (Program.tool env args) h).1 = .exited 0 := by
  simp only [Program.tool, asked, carryOut]
  split <;> rfl

theorem exit_of_crash {env : Scan.Environment} {args : List Argument} {message : String}
    (h : Host) (crashed : Settings.read env args = .error (.crash message)) :
    (carryOut (Program.tool env args) h).1 = .exited crashCode := by
  obtain ⟨stderr, eq⟩ := carryOut_crash h message
  simp only [Program.tool, crashed, eq]

theorem exitCode_injective {a b : Status} (same : a.exitCode = b.exitCode) : a = b := by
  revert same
  cases a <;> cases b <;> decide

theorem ne_exited_of_isCrash {ending : Ending} (crash : ending.IsCrash) (status : Status) :
    ending ≠ .exited status.exitCode := by
  rcases crash with rfl | rfl
  · cases status <;> decide
  · simp

/-- **What a code of a status tells**: a last run of that status, or, for 2, a command line that
cannot be used; for 0 there are requests, too. -/
theorem ran_or_unstarted (h : Host) (env : Scan.Environment) (args : List Argument)
    (status : Status) (exited : (carryOut (Program.tool env args) h).1 = .exited status.exitCode) :
    h.RanTo env args status (carryOut (Program.tool env args) h) ∨
      (∃ e, Settings.read env args = .error (.mistake e) ∧ status = .joinFailed) ∨
      (∃ r, Settings.read env args = .error (.request r) ∧ status = .success) := by
  cases isRead : Settings.read env args with
  | ok settings =>
    rcases exit_of_accepted h isRead with
      ⟨ready, before, last, isOpened, concludes, -, ends⟩ | tool | crash
    · rw [exited] at ends
      have same := exitCode_injective (Ending.exited.inj ends)
      exact .inl ⟨settings, ready, before, last, isRead, isOpened, concludes, same.symm⟩
    · rw [exited] at tool
      cases status <;> cases tool
    · exact absurd exited (ne_exited_of_isCrash crash status)
  | error stop =>
    cases stop with
    | mistake e =>
      have ends := (exit_of_mistake h isRead).ending
      rw [exited] at ends
      refine .inr (.inl ⟨e, rfl, ?_⟩)
      cases status with
      | joinFailed => rfl
      | success => cases ends
      | spawnFailed => cases ends
    | request r =>
      have ends := exit_of_request h isRead
      rw [exited] at ends
      refine .inr (.inr ⟨r, rfl, ?_⟩)
      cases status with
      | success => rfl
      | spawnFailed => cases ends
      | joinFailed => cases ends
    | crash message =>
      have ends := exit_of_crash h isRead
      rw [exited] at ends
      cases status <;> cases ends

/-- **What an exit code tells**, on every command line, in every environment and on every host.
Code 1 tells that a run was performed and the last could not start its worker. Code 2 tells that a
run was performed and the worker of the last could not be joined, or that the command line cannot
be used and nothing was performed, and every such command line ends so. A log that cannot be opened
and a summary that cannot be saved are told by the tool's own code, unless there is a crash. -/
theorem exit_told (env : Scan.Environment) (args : List Argument) (h : Host) :
    ((carryOut (Program.tool env args) h).1 = .exited 1 →
      h.RanTo env args .spawnFailed (carryOut (Program.tool env args) h)) ∧
    ((carryOut (Program.tool env args) h).1 = .exited 2 →
      h.RanTo env args .joinFailed (carryOut (Program.tool env args) h) ∨
      ∃ e, Settings.read env args = .error (.mistake e)) ∧
    (∀ e, Settings.read env args = .error (.mistake e) →
      h.Unstarted h.files 2 (carryOut (Program.tool env args) h)) ∧
    (∀ settings e, Settings.read env args = .ok settings →
      h.opened settings.log.file = .error e →
        (carryOut (Program.tool env args) h).1 = .exited 3 ∨
          (carryOut (Program.tool env args) h).1.IsCrash) ∧
    (∀ settings ready path, Settings.read env args = .ok settings →
      h.opened settings.log.file = .ok ready → settings.run.summaryFile = some path →
        (∀ text, (ready.save path text).2 ≠ .done) →
          (carryOut (Program.tool env args) h).1 = .exited 3 ∨
            (carryOut (Program.tool env args) h).1.IsCrash) := by
  refine ⟨?_, ?_, fun e mistaken => exit_of_mistake h mistaken, ?_, ?_⟩
  · intro exited
    rcases ran_or_unstarted h env args .spawnFailed exited with
      ran | ⟨_, -, none⟩ | ⟨_, -, none⟩
    · exact ran
    · cases none
    · cases none
  · intro exited
    rcases ran_or_unstarted h env args .joinFailed exited with
      ran | ⟨e, mistaken, -⟩ | ⟨_, -, none⟩
    · exact .inl ran
    · exact .inr ⟨e, mistaken⟩
    · cases none
  · intro settings e accepted unopened
    rcases exit_of_accepted h accepted with ⟨ready, _, _, isOpened, -⟩ | rest
    · cases unopened.symm.trans isOpened
    · exact rest
  · intro settings ready path accepted isOpened asked unsaved
    rcases exit_of_accepted h accepted with ⟨other, _, last, isOther, -, saved, -⟩ | rest
    · cases isOpened.symm.trans isOther
      exact absurd (saved path asked) (unsaved _)
    · exact rest

/-- A number of rounds that is zero ends the tool with the code of a worker that could not be
joined, and there was none. -/
theorem usage_told_as_joinFailed :
    let args := ["--repeat", "0"].map fun text => Argument.ofText text.toList
    let result := carryOut (Program.tool (fun _ => none) args) {}
    Settings.read (fun _ => none) args =
        .error (.mistake (.badValue ['0'] .rounds Text.NumeralError.zero.message)) ∧
      result.1 = .exited Status.joinFailed.exitCode ∧ result.2.performed = 0 := by
  decide +kernel

end Host

end Duet.Tool
