import Duet.Proofs.Summary.RoundTrip
import Duet.Proofs.Text.Utf8
import Duet.Proofs.Tool.Rounds

/-!
# How the tool ends

From the command line to the exit there are three ways: the log cannot be opened, setting it up
crashes, or the runs are performed, the last of them is reported on, and its summary is saved. The
host that decides about the summary file is the one on which the log was opened, since nothing
after that changes what can be created (`Host.Alike`).

**On a command line that is in order, the tool ends in one of these ways, and on no other
conditions** (`Host.tool_outcome`).

What this does not establish: a line for the log is written at once here. A log that is written
behind the tool's back, and to the very file that the summary goes to, could spoil the summary.
-/

namespace Duet.Tool

open CommandLine

namespace Host

/-! ## Saying something -/

/-- **A program says something and goes on**: carrying it out comes down to carrying out another
one, with more on the standard error, unless it breaks. -/
def Says (h : Host) (program next : Program) : Prop :=
  (∃ stderr : Stream, stderr.isFull = h.stderr.isFull ∧ h.stderr.bytes <+: stderr.bytes ∧
    carryOut program h = carryOut next { h with stderr }) ∨ h.Breaks (carryOut program h)

theorem says_report (h : Host) (text : String) (next : Program) :
    (∃ stderr : Stream, stderr.isFull = h.stderr.isFull ∧
      stderr.bytes = h.stderr.bytes ++ bytesOf text ∧
      carryOut (.report text next) h = carryOut next { h with stderr }) ∨
      h.Breaks (carryOut (.report text next) h) := by
  cases taken : h.stderr.write? (bytesOf text) with
  | none =>
    refine .inr ⟨Stream.write?_eq_none taken, ?_⟩
    simp only [carryOut, taken]
    exact isCrash_crashed []
  | some stderr =>
    obtain ⟨-, rfl⟩ := Stream.write?_eq_some taken
    exact .inl ⟨h.stderr.add (bytesOf text), rfl, Stream.bytes_add _ _,
      by simp only [carryOut, taken]⟩

theorem says_reportAll (h : Host) (lines : List String) (next : Program) :
    h.Says (Program.reportAll lines next) next := by
  induction lines generalizing h with
  | nil => exact .inl ⟨h.stderr, rfl, List.prefix_rfl, rfl⟩
  | cons line lines ih =>
    rcases says_report h line (Program.reportAll lines next) with
      ⟨stderr, isFull, bytes, eq⟩ | crash
    · rcases ih { h with stderr } with ⟨last, isFull', said, eq'⟩ | ⟨full, crash⟩
      · refine .inl ⟨last, isFull'.trans isFull, ?_, eq.trans eq'⟩
        exact (bytes ▸ List.prefix_append _ _).trans said
      · refine .inr ⟨isFull ▸ full, ?_⟩
        rw [show Program.reportAll (line :: lines) next =
          .report line (Program.reportAll lines next) from rfl, eq]
        exact crash
    · exact .inr crash

theorem carryOut_crash (h : Host) (message : String) :
    ∃ stderr : Stream, carryOut (Program.crash message) h =
      (.exited crashCode, { h with stderr }) := by
  cases taken : h.stderr.write? (bytesOf (message ++ "\n")) with
  | none => exact ⟨h.stderr, by simp only [Program.crash, carryOut, taken]⟩
  | some stderr => exact ⟨stderr, by simp only [Program.crash, carryOut, taken]⟩

/-! ## Opening the log -/

/-- The host with the log opened as asked for. -/
def opened (h : Host) : Option (List Char) → Except SystemError Host
  | none => .ok h
  | some path => (h.create path).map fun (h, target) => { h with log := some target }

/-- What is to be objected to in the directives of an environment. -/
def objections (env : Scan.Environment) : List (List Char × Log.DirectiveError) :=
  (Log.Filter.read ((Program.textOf? env "RUST_LOG").getD [])).2

/-- Whether setting up the log crashes: the thread that writes it to a file is refused, or a
directive cannot even be refused. -/
def crashesLog (h : Host) (env : Scan.Environment) (settings : Settings) : Bool :=
  settings.log.file.isSome && h.logRefusal.isSome || (objections env).any (·.2.isCrash)

/-- Objections come down to lines on the standard error, and to a crash if one of them is. -/
theorem foldr_objectTo (ignored : List (List Char × Log.DirectiveError)) (next : Program) :
    (ignored.any (·.2.isCrash) = true ∧ ∃ lines message,
      ignored.foldr (fun (piece, e) => Program.objectTo piece e) next =
        Program.reportAll lines (Program.crash message)) ∨
    (ignored.any (·.2.isCrash) = false ∧ ∃ lines,
      ignored.foldr (fun (piece, e) => Program.objectTo piece e) next =
        Program.reportAll lines next) := by
  induction ignored with
  | nil => exact .inr ⟨rfl, [], rfl⟩
  | cons objection ignored ih =>
    obtain ⟨piece, e⟩ := objection
    cases crash : e.isCrash with
    | true =>
      refine .inl ⟨by simp [crash], [], e.message, ?_⟩
      simp [Program.objectTo, crash, Program.reportAll]
    | false =>
      rcases ih with ⟨any, lines, message, eq⟩ | ⟨any, lines, eq⟩
      · refine .inl ⟨by simp [crash, any], Log.Filter.complaint piece e :: lines, message, ?_⟩
        simp [Program.objectTo, crash, Program.reportAll, eq]
      · refine .inr ⟨by simp [crash, any], Log.Filter.complaint piece e :: lines, ?_⟩
        simp [Program.objectTo, crash, Program.reportAll, eq]

/-- Setting up the filter comes down to lines on the standard error, and then to the runs or to a
crash. -/
theorem logged_eq (env : Scan.Environment) (settings : Settings) :
    ((objections env).any (·.2.isCrash) = true ∧ ∃ lines message,
      Program.logged env settings = Program.reportAll lines (Program.crash message)) ∨
    ((objections env).any (·.2.isCrash) = false ∧ ∃ lines filter,
      Program.logged env settings = Program.reportAll lines
        (Program.perform (Program.isColoured env) filter settings.run)) := by
  rcases foldr_objectTo (objections env) (Program.perform (Program.isColoured env)
    ((Log.Filter.read ((Program.textOf? env "RUST_LOG").getD [])).1.withLevel
      (settings.log.level.getD Log.Filter.defaultLevel)) settings.run) with
    ⟨any, lines, message, eq⟩ | ⟨any, lines, eq⟩
  · exact .inl ⟨any, lines, message, eq⟩
  · exact .inr ⟨any, lines, _, eq⟩

/-! ## After the rounds -/

/-- How the tool ends after the rounds: it saves the summary if asked to and exits with the status,
or it exits with a code of its own because the summary cannot be saved. -/
structure Ends (h : Host) (run : RunSettings) (summary : Summary) (result : Ending × Host) :
    Prop where
  performed : result.2.performed = h.performed
  said : h.stderr.bytes <+: result.2.stderr.bytes
  unsaved : ∀ path, run.summaryFile = some path →
    (h.save path summary.pretty).2 ≠ .done → result.1 = .exited toolFailure
  exits : (∀ path, run.summaryFile = some path → (h.save path summary.pretty).2 = .done) →
    result.1 = .exited summary.status.exitCode
  saved : ∀ path place, run.summaryFile = some path → h.opens path = .ok (.file place) →
    (h.save path summary.pretty).2 = .done →
      result.2.files.content? place = some (bytesOf summary.pretty)

/-- Saving a text takes nothing back. -/
theorem save_fst (h : Host) (path : List Char) (text : String) :
    (h.save path text).1.performed = h.performed ∧
      (h.save path text).1.stderr.isFull = h.stderr.isFull ∧
      h.stderr.bytes <+: (h.save path text).1.stderr.bytes := by
  unfold save
  split
  · exact ⟨rfl, rfl, List.prefix_rfl⟩
  · next created =>
    obtain ⟨files, -, rfl⟩ := create_eq_ok created
    split
    · next wrote =>
      have later := later_writeTo wrote
      exact ⟨later.performed, later.alike.stderr.symm, later.said⟩
    · exact ⟨rfl, rfl, List.prefix_rfl⟩

/-- A trouble ends the tool with its own code. -/
theorem fail_ends (h : Host) (coloured : Bool) (trouble : Trouble) :
    (∃ stderr : Stream, h.stderr.bytes <+: stderr.bytes ∧
      carryOut (Program.fail coloured trouble) h = (.exited toolFailure, { h with stderr })) ∨
      h.Breaks (carryOut (Program.fail coloured trouble) h) := by
  rcases says_reportAll h (trouble.report coloured) (.exit toolFailure) with
    ⟨stderr, -, said, eq⟩ | crash
  · exact .inl ⟨stderr, said, eq⟩
  · exact .inr crash

theorem saveAndExit_ends (h : Host) (coloured : Bool) (run : RunSettings) (summary : Summary) :
    h.Ends run summary (carryOut (Program.saveAndExit coloured run summary) h) ∨
      h.Breaks (carryOut (Program.saveAndExit coloured run summary) h) := by
  unfold Program.saveAndExit
  cases asked : run.summaryFile with
  | none =>
    refine .inl ⟨rfl, List.prefix_rfl, ?_, fun _ => rfl, ?_⟩
    · intro path isPath
      rw [asked] at isPath
      cases isPath
    · intro path place isPath
      rw [asked] at isPath
      cases isPath
  | some path =>
    obtain ⟨performed, isFull, said⟩ := save_fst h path summary.pretty
    simp only [carryOut]
    have failed : ∀ trouble, (h.save path summary.pretty).2 ≠ .done →
        h.Ends run summary
          (carryOut (Program.fail coloured trouble) (h.save path summary.pretty).1) ∨
        h.Breaks (carryOut (Program.fail coloured trouble) (h.save path summary.pretty).1) := by
      intro trouble notDone
      rcases fail_ends (h.save path summary.pretty).1 coloured trouble with
        ⟨stderr, more, eq⟩ | ⟨full, crash⟩
      · rw [eq]
        refine .inl ⟨performed, said.trans more, fun _ _ _ => rfl, ?_, ?_⟩
        · exact fun all => absurd (all path asked) notDone
        · intro other place isPath _ done
          cases asked.symm.trans isPath
          exact absurd done notDone
      · exact .inr ⟨isFull ▸ full, crash⟩
    cases saved : (h.save path summary.pretty).2 with
    | done =>
      refine .inl ⟨performed, said, ?_, fun _ => rfl, ?_⟩
      · intro other isPath notDone
        cases asked.symm.trans isPath
        exact absurd saved notDone
      · intro other place isPath opens done
        cases asked.symm.trans isPath
        exact content?_save opens done
    | notCreated e => exact failed _ (by simp [saved])
    | notWritten e => exact failed _ (by simp [saved])

/-- **How the tool ends once its log is open**: the runs are performed. The last is reported on if
asked for, whatever follows. The exit code is the tool's own if the summary cannot be saved, else
that of the last status. A file that the summary is saved to decodes to it, and its code is the
exit code. -/
structure Concludes (h : Host) (run : RunSettings) (before : Nat) (last : Account)
    (result : Ending × Host) : Prop where
  performs : h.Performs (.stock run.fault) run.rounds before last
  performed : result.2.performed = h.performed + (1 + before)
  reported : run.summary = true → ∃ earlier later, result.2.stderr.bytes =
    h.stderr.bytes ++ earlier ++ bytesOf (Program.heading ++ last.summary.display ++ "\n") ++ later
  unsaved : ∀ path, run.summaryFile = some path →
    (h.save path last.summary.pretty).2 ≠ .done → result.1 = .exited toolFailure
  exits : (∀ path, run.summaryFile = some path → (h.save path last.summary.pretty).2 = .done) →
    result.1 = .exited last.summary.status.exitCode
  saved : ∀ path place, run.summaryFile = some path → h.opens path = .ok (.file place) →
    result.1 ≠ .exited toolFailure → ∃ content text code,
      result.2.files.content? place = some content ∧
      Text.Utf8.whole? (Text.Utf8.decode content) = some text ∧
      Summary.parse text = .ok last.summary ∧
      result.1 = .exited code ∧ last.summary.code.toInt = (code.toNat : Int)

theorem code_eq_exitCode (s : Status) : s.code.toInt = (s.exitCode.toNat : Int) := by
  cases s <;> rfl

/-- What ends the tool on a host ends it as is to be said of an earlier one. -/
theorem Ends.concludes {h after : Host} {run : RunSettings} {before : Nat} {last : Account}
    {result : Ending × Host} (ends : after.Ends run last.summary result)
    (performs : h.Performs (.stock run.fault) run.rounds before last)
    (later : h.Later after (1 + before))
    (reported : run.summary = true → ∃ earlier, after.stderr.bytes =
      h.stderr.bytes ++ earlier ++
        bytesOf (Program.heading ++ last.summary.display ++ "\n")) :
    h.Concludes run before last result := by
  have same (path : List Char) := later.alike.save path last.summary.pretty
  refine ⟨performs, ends.performed.trans later.performed, ?_, ?_, ?_, ?_⟩
  · intro asked
    obtain ⟨earlier, bytes⟩ := reported asked
    obtain ⟨rest, more⟩ := ends.said
    exact ⟨earlier, rest, by rw [← bytes, more]⟩
  · intro path isPath notDone
    exact ends.unsaved path isPath (same path ▸ notDone)
  · intro all
    exact ends.exits fun path isPath => same path ▸ all path isPath
  · intro path place isPath opens notTool
    have done : (after.save path last.summary.pretty).2 = .done :=
      Decidable.byContradiction fun notDone => notTool (ends.unsaved path isPath notDone)
    have content := ends.saved path place isPath (later.alike.opens path ▸ opens) done
    have exits := ends.exits fun other isOther => by
      cases isPath.symm.trans isOther
      exact done
    refine ⟨_, _, _, content, Text.Utf8.whole?_decode_encode _, ?_, exits, ?_⟩
    · rw [Summary.pretty, String.toList_ofList]
      exact Summary.parse_pretty last.summary
    · rw [performs.code]
      exact code_eq_exitCode _

theorem conclude_concludes {h after : Host} {run : RunSettings} {before : Nat} {last : Account}
    (performs : h.Performs (.stock run.fault) run.rounds before last)
    (later : h.Later after (1 + before)) (coloured : Bool) :
    h.Concludes run before last (carryOut (Program.conclude coloured run last.summary) after) ∨
      h.Breaks (carryOut (Program.conclude coloured run last.summary) after) := by
  unfold Program.conclude
  cases asked : run.summary with
  | false =>
    rcases saveAndExit_ends after coloured run last.summary with ends | ⟨full, crash⟩
    · exact .inl (ends.concludes performs later fun isAsked => by simp [asked] at isAsked)
    · exact .inr ⟨later.alike.stderr.trans full, crash⟩
  | true =>
    simp only [if_true]
    rcases says_report after (Program.heading ++ last.summary.display ++ "\n")
      (Program.saveAndExit coloured run last.summary) with
      ⟨stderr, isFull, bytes, eq⟩ | ⟨full, crash⟩
    · rw [eq]
      have said : after.Later { after with stderr } 0 :=
        later_said isFull (bytes ▸ List.prefix_append _ _)
      rcases saveAndExit_ends { after with stderr } coloured run last.summary with
        ends | ⟨full, crash⟩
      · refine .inl (ends.concludes performs (later.trans said) fun _ => ?_)
        obtain ⟨earlier, more⟩ := later.said
        exact ⟨earlier, bytes.trans (by rw [more])⟩
      · exact .inr ⟨(later.alike.stderr.trans isFull.symm).trans full, crash⟩
    · exact .inr ⟨later.alike.stderr.trans full, crash⟩

/-! ## The whole tool -/

/-- Ended before any run, with nothing on the standard output. -/
structure Unstarted (h : Host) (files : Files) (code : UInt8) (result : Ending × Host) : Prop where
  ending : result.1 = .exited code
  performed : result.2.performed = h.performed
  stdout : result.2.stdout = h.stdout
  files : result.2.files = files

/-- **How the tool ends** on settings: with its own code if the log cannot be opened, with that of a
crash if it cannot be set up, else as the runs and the summary file have it. In the first two cases
nothing is performed, and no file is touched but that of the log. -/
def Outcome (h : Host) (env : Scan.Environment) (settings : Settings)
    (result : Ending × Host) : Prop :=
  match h.opened settings.log.file with
  | .error _ => h.Unstarted h.files toolFailure result
  | .ok ready =>
    if h.crashesLog env settings then h.Unstarted ready.files crashCode result
    else ∃ before last, ready.Concludes settings.run before last result

theorem perform_concludes {h after : Host} {run : RunSettings} (later : h.Later after 0)
    (pos : 0 < run.rounds) (coloured : Bool) (filter : Log.Filter) :
    (∃ before last,
      h.Concludes run before last (carryOut (Program.perform coloured filter run) after)) ∨
      h.Breaks (carryOut (Program.perform coloured filter run) after) := by
  obtain ⟨before, last, performs⟩ := exists_performs h (.stock run.fault) pos
  rcases leads_perform (later.performs_iff.2 performs) coloured filter with
    ⟨finished, more, eq⟩ | ⟨full, crash⟩
  · have whole : h.Later finished (1 + before) := by
      rw [← Nat.zero_add (1 + before)]
      exact later.trans more
    rw [eq]
    rcases conclude_concludes performs whole coloured with concludes | crash
    · exact .inl ⟨before, last, concludes⟩
    · exact .inr crash
  · exact .inr ⟨later.alike.stderr.trans full, crash⟩

theorem logged_outcome {h : Host} {settings : Settings} (pos : 0 < settings.run.rounds)
    (env : Scan.Environment) :
    (if (objections env).any (·.2.isCrash) then
      h.Unstarted h.files crashCode (carryOut (Program.logged env settings) h)
    else ∃ before last,
      h.Concludes settings.run before last (carryOut (Program.logged env settings) h)) ∨
    h.Breaks (carryOut (Program.logged env settings) h) := by
  rcases logged_eq env settings with
    ⟨any, lines, message, isLogged⟩ | ⟨any, lines, filter, isLogged⟩
  · rw [any, if_pos rfl, isLogged]
    rcases says_reportAll h lines (Program.crash message) with ⟨stderr, -, -, eq⟩ | crash
    · obtain ⟨stderr', crash⟩ := carryOut_crash { h with stderr } message
      rw [eq, crash]
      exact .inl ⟨rfl, rfl, rfl, rfl⟩
    · exact .inr crash
  · rw [any, if_neg Bool.false_ne_true, isLogged]
    rcases says_reportAll h lines (Program.perform (Program.isColoured env) filter settings.run)
      with ⟨stderr, isFull, said, eq⟩ | crash
    · rw [eq]
      exact perform_concludes (later_said isFull said) pos _ _
    · exact .inr crash

/-- **From the opening of the log on**, the tool ends as is to be said, unless the standard error is
full. -/
theorem start_outcome (h : Host) {settings : Settings} (pos : 0 < settings.run.rounds)
    (env : Scan.Environment) :
    h.Outcome env settings (carryOut (Program.start env settings) h) ∨
      h.Breaks (carryOut (Program.start env settings) h) := by
  unfold Program.start Outcome crashesLog
  cases asked : settings.log.file with
  | none =>
    simp only [opened, Option.isSome_none, Bool.false_and, Bool.false_or]
    exact logged_outcome pos env
  | some path =>
    simp only [opened, carryOut]
    cases created : h.create path with
    | error e =>
      simp only [Except.map]
      rcases fail_ends h (Program.isColoured env)
        ((Trouble.ofSystem e).within (Program.aboutFile "Failed to open log file" path)) with
        ⟨stderr, -, eq⟩ | crash
      · rw [eq]
        exact .inl ⟨rfl, rfl, rfl, rfl⟩
      · exact .inr crash
    | ok pair =>
      obtain ⟨after, target⟩ := pair
      obtain ⟨files, -, rfl⟩ := create_eq_ok created
      simp only [Except.map]
      cases refused : h.logRefusal.isSome with
      | true =>
        simp only [Option.isSome_some, Bool.true_and, Bool.true_or, if_true]
        exact .inl ⟨rfl, rfl, rfl, rfl⟩
      | false =>
        simp only [Bool.and_false, Bool.false_or, Bool.false_eq_true, if_false]
        rcases logged_outcome (h := { h with files, log := some target }) pos env with
          outcome | breaks
        · left
          split at outcome
          · next crashes =>
            rw [if_pos crashes]
            exact ⟨outcome.ending, outcome.performed, outcome.stdout, outcome.files⟩
          · next goesOn =>
            rw [if_neg goesOn]
            exact outcome
        · exact .inr ⟨breaks.full, breaks.crash⟩

end Host

theorem readPositive_pos {limit n : Nat} {text : List Char}
    (isRead : Text.readPositive limit text = .ok n) : 0 < n := by
  obtain ⟨m, -, isN⟩ := Json.bind_eq_ok.1 isRead
  split at isN
  · cases isN
  · cases isN
    omega

/-- A command line that is in order asks for a round at least. -/
theorem rounds_pos {env : Scan.Environment} {args : List Argument} {settings : Settings}
    (accepted : Settings.read env args = .ok settings) : 0 < settings.run.rounds := by
  unfold Settings.read at accepted
  cases scanned : Scan.run Flag.all env args with
  | error stop =>
    rw [scanned] at accepted
    cases accepted
  | ok given =>
    rw [scanned] at accepted
    cases accepted
    simp only [RunSettings.ofGiven]
    cases given' : value? given .rounds with
    | none => exact Nat.one_pos
    | some text =>
      cases isRead : Text.readPositive Flag.mostRounds text with
      | error e => simp [isRead, Except.toOption]
      | ok n =>
        have pos := readPositive_pos isRead
        simpa [isRead, Except.toOption] using pos

/-- **On a command line that is in order, the tool ends as is to be said**, whatever the files,
the system and the runs have in store for it. -/
theorem Host.tool_outcome {env : Scan.Environment} {args : List Argument} {settings : Settings}
    {h : Host} (accepted : Settings.read env args = .ok settings)
    (isOpen : h.stderr.isFull = false) :
    h.Outcome env settings (carryOut (Program.tool env args) h) := by
  have started : Program.tool env args = Program.start env settings := by
    simp only [Program.tool, accepted]
  rw [started]
  rcases start_outcome h (rounds_pos accepted) env with outcome | ⟨full, -⟩
  · exact outcome
  · rw [isOpen] at full
    cases full

/-- Three rounds of which the second is refused its thread, with a log, a report and a summary
file. -/
theorem Host.tool_outcome_second_refused :
    let args := ["--repeat", "3", "--summary", "--summary-json", "s", "--log-file", "l"].map
      fun text => Argument.ofText text.toList
    let settings : Settings :=
      { log := { file := some ['l'] }
        run := { rounds := 3, summary := true, summaryFile := some ['s'] } }
    let h : Host := { conditions := fun i => { refusal := if i = 1 then some .noThread else none } }
    let result := carryOut (Program.tool (fun _ => none) args) h
    Settings.read (fun _ => none) args = .ok settings ∧ h.stderr.isFull = false ∧
      result.1 = .exited Status.spawnFailed.exitCode ∧ result.2.performed = 2 ∧
      h.Outcome (fun _ => none) settings result := by
  intro args settings h result
  have accepted : Settings.read (fun _ => none) args = .ok settings := by decide +kernel
  exact ⟨accepted, rfl, by decide +kernel, by decide +kernel, tool_outcome accepted rfl⟩

/-- **Two limits.** A summary that is sent to the standard output comes after the greetings, so
that what is there does not decode, though the tool exits with success. And a log that cannot be
set up, because of a directive cut inside a character or because its thread is refused, ends the
tool before any run, though every file that was asked for could be created. -/
theorem Host.summary_on_stdout_unreadable :
    let bare : Scan.Environment := fun _ => none
    let toStdout := ["--summary-json", "/dev/stdout"].map fun text => Argument.ofText text.toList
    let onStdout := carryOut (Program.tool bare toStdout) {}
    let cut : Scan.Environment := fun name =>
      if name = "RUST_LOG" then some (.ofText "\u00a0a[x]".toList) else none
    let toFile := ["--log-file", "l"].map fun text => Argument.ofText text.toList
    let refused := carryOut (Program.tool bare toFile) { logRefusal := some .noThread }
    (Settings.read bare toStdout = .ok { run := { summaryFile := some "/dev/stdout".toList } } ∧
      onStdout.1 = .exited Status.success.exitCode ∧
      ((Text.Utf8.whole? (Text.Utf8.decode onStdout.2.stdout.bytes)).bind fun text =>
        (Summary.parse text).toOption) = none) ∧
    (Settings.read cut [] = .ok {} ∧
      (carryOut (Program.tool cut []) {}).1 = .exited crashCode ∧
      (carryOut (Program.tool cut []) {}).2.performed = 0) ∧
    (Settings.read bare toFile = .ok { log := { file := some ['l'] } } ∧
      refused.1 = .exited crashCode ∧ refused.2.performed = 0 ∧
      refused.2.files.content? (.inside [['l']]) = some []) := by
  decide +kernel

end Duet.Tool
