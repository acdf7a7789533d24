import Duet.Proofs.CommandLine.Environment
import Duet.Proofs.CommandLine.Values

/-!
# Reading back what was written

An assignment says what each option is set to, or that it is not. A command line can word it in
any order and in any of the forms; all of them are read as the same settings. Options that are
absent are left at their defaults, or, for those about logging, are up to the environment.

**A command line is read as the assignment it words** (`Assignment.read_commandLine`).
-/

namespace Duet.CommandLine

/-- What the options are set to, `none` for those that are not given. -/
structure Assignment where
  rounds : Option Nat := none
  summary : Bool := false
  summaryFile : Option (List Char) := none
  fault : Option Fault := none
  level : Option Log.Level := none
  logFile : Option (List Char) := none
  deriving DecidableEq, Repr

namespace Assignment

/-- Whether an option is given. -/
def gives (a : Assignment) : Flag → Bool
  | .rounds => a.rounds.isSome
  | .summary => a.summary
  | .summaryFile => a.summaryFile.isSome
  | .fault => a.fault.isSome
  | .log => a.level.isSome
  | .logFile => a.logFile.isSome
  | .help | .version => false

/-- A text, or none for an option without a value, spells what an option is set to. -/
def Spells (a : Assignment) : Flag → Option (List Char) → Prop
  | .rounds, some text =>
    ∃ n, a.rounds = some n ∧ 1 ≤ n ∧ n ≤ Flag.mostRounds ∧ Text.Numeral n text
  | .summary, none => a.summary = true
  | .summaryFile, some text => a.summaryFile = some text
  | .fault, some text => ∃ f, a.fault = some f ∧ f.Spelled text
  | .log, some text => ∃ l, a.level = some l ∧ l.Spelled text
  | .logFile, some text => a.logFile = some text
  | _, _ => False

/-- The wordings say what the assignment says: each given option once, in any order, with a
spelling of its value in a form that fits. -/
structure Words (a : Assignment) (wordings : List Wording) : Prop where
  once : (wordings.map Wording.flag).Nodup
  complete : ∀ flag, a.gives flag = true → flag ∈ wordings.map Wording.flag
  spelled : ∀ w ∈ wordings, a.Spells w.flag w.text
  fitting : ∀ w ∈ wordings, w.Fitting

/-! ## What is asked for -/

/-- The settings about runs: those given, and the defaults. -/
def run (a : Assignment) : RunSettings where
  rounds := a.rounds.getD 1
  summary := a.summary
  summaryFile := a.summaryFile
  fault := a.fault

section Offers

variable {α : Type}

/-- What a setting comes to: what is given, else what the environment has, else nothing. -/
def Settles (Spelled : α → List Char → Prop) (given : Option α) (offered : Option Argument)
    (setting : Option α) : Prop :=
  match given, offered with
  | some x, _ => setting = some x
  | none, none => setting = none
  | none, some value => ∃ text x, value = .ofText text ∧ Spelled x text ∧ setting = some x

/-- Nothing is given, and what the environment has spells nothing. -/
def Garbled (Spelled : α → List Char → Prop) (given : Option α) (offered : Option Argument) :
    Prop :=
  given = none ∧ ∃ value, offered = some value ∧ ∀ text x, value = .ofText text → ¬ Spelled x text

variable {Spelled : α → List Char → Prop} {given setting : Option α} {offered : Option Argument}

theorem spelled_of_clear {value : Argument} (isNone : given = none) (isSome : offered = some value)
    (clear : ¬ Garbled Spelled given offered) :
    ∃ text x, value = .ofText text ∧ Spelled x text := by
  by_cases spells : ∃ text x, value = .ofText text ∧ Spelled x text
  · exact spells
  · have garbled : Garbled Spelled given offered :=
      ⟨isNone, value, isSome, fun text x isText spelled => spells ⟨text, x, isText, spelled⟩⟩
    exact absurd garbled clear

theorem exists_settles (clear : ¬ Garbled Spelled given offered) :
    ∃ setting, Settles Spelled given offered setting := by
  cases given with
  | some x => exact ⟨some x, rfl⟩
  | none =>
    cases offered with
    | none => exact ⟨none, rfl⟩
    | some value =>
      obtain ⟨text, x, isText, spelled⟩ := spelled_of_clear rfl rfl clear
      exact ⟨some x, text, x, isText, spelled, rfl⟩

namespace Settles

theorem of_given {x : α} (settles : Settles Spelled given offered setting)
    (isGiven : given = some x) : setting = some x := by
  subst isGiven
  exact settles

theorem of_offered {text : List Char} (settles : Settles Spelled given offered setting)
    (isNone : given = none) (isText : offered = some (.ofText text)) :
    ∃ x, setting = some x ∧ Spelled x text := by
  subst isNone isText
  obtain ⟨same, x, isText, spelled, isSome⟩ := settles
  rw [← Argument.ofText_inj.1 isText] at spelled
  exact ⟨x, isSome, spelled⟩

/-- A setting has one of the two sources. -/
theorem source (settles : Settles Spelled given offered setting) (isSome : setting.isSome = true) :
    given.isSome = true ∨ given = none ∧ ∃ text, offered = some (.ofText text) := by
  cases given with
  | some x => exact .inl rfl
  | none =>
    cases offered with
    | none =>
      cases settles
      cases isSome
    | some value =>
      obtain ⟨text, x, isText, -⟩ := settles
      exact .inr ⟨rfl, text, congrArg some isText⟩

end Settles

end Offers

/-- The settings about logging that are asked for in an environment. -/
structure Asks (a : Assignment) (env : Scan.Environment) (log : LogSettings) : Prop where
  level : Settles Log.Level.Spelled a.level (env "THREADED_HELLO_LOG") log.level
  file : Settles Eq a.logFile (env "THREADED_HELLO_LOG_FILE") log.file

/-- The assignment with the settings about logging put in. -/
def filled (a : Assignment) (log : LogSettings) : Assignment :=
  { a with level := log.level, logFile := log.file }

/-- The environment has something malformed for an option that is not given. -/
def Misled (a : Assignment) (env : Scan.Environment) : Prop :=
  Garbled Log.Level.Spelled a.level (env "THREADED_HELLO_LOG") ∨
    Garbled Eq a.logFile (env "THREADED_HELLO_LOG_FILE")

/-! ## Spellings -/

section Spellings

variable {a : Assignment} {flag : Flag} {text? : Option (List Char)}

theorem Spells.gives (spells : a.Spells flag text?) : a.gives flag = true := by
  unfold Spells at spells
  split at spells
  · obtain ⟨n, isSome, -⟩ := spells
    simp [Assignment.gives, isSome]
  · exact spells
  · simp [Assignment.gives, spells]
  · obtain ⟨f, isSome, -⟩ := spells
    simp [Assignment.gives, isSome]
  · obtain ⟨l, isSome, -⟩ := spells
    simp [Assignment.gives, isSome]
  · simp [Assignment.gives, spells]
  · exact spells.elim

theorem Spells.sound {w : Wording} (spells : a.Spells w.flag w.text) (fitting : w.Fitting) :
    w.Sound := by
  obtain ⟨flag, text?, form⟩ := w
  refine ⟨?_, ?_, fitting⟩
  · constructor <;> rintro rfl <;> exact spells.elim
  · cases flag <;> cases text? <;> first | rfl | exact spells.elim

/-- A text is taken for a level exactly if it spells one. -/
theorem refusal?_log {text : List Char} :
    Flag.refusal? .log text = none ↔ ∃ l : Log.Level, l.Spelled text := by
  rw [Flag.refusal?]
  constructor
  · intro isTaken
    cases isRead : Log.Level.read? text with
    | some l => exact ⟨l, Log.Level.read?_eq_some.1 isRead⟩
    | none =>
      rw [isRead] at isTaken
      cases isTaken
  · rintro ⟨l, spelled⟩
    rw [Log.Level.read?_eq_some.2 spelled]
    rfl

/-- A spelling is taken for a value by its flag. -/
theorem Spells.refusal? (spells : a.Spells flag text?) :
    ∀ text ∈ text?, flag.refusal? text = none := by
  rintro text rfl
  cases flag with
  | rounds =>
    obtain ⟨n, -, positive, fits, numeral⟩ := spells
    rw [Flag.refusal?, Text.readPositive_of_numeral numeral positive fits]
  | fault =>
    obtain ⟨f, -, spelled⟩ := spells
    rw [Flag.refusal?, spelled.read_eq]
  | log =>
    obtain ⟨l, -, spelled⟩ := spells
    exact refusal?_log.2 ⟨l, spelled⟩
  | logFile | summaryFile => rfl
  | help | version | summary => exact spells.elim

theorem Spells.filled {env : Scan.Environment} {log : LogSettings} (spells : a.Spells flag text?)
    (asks : a.Asks env log) : (a.filled log).Spells flag text? := by
  cases flag with
  | log =>
    cases text? with
    | none => exact spells
    | some text =>
      obtain ⟨l, isSome, spelled⟩ := spells
      exact ⟨l, asks.level.of_given isSome, spelled⟩
  | logFile =>
    cases text? with
    | none => exact spells
    | some text => exact asks.file.of_given spells
  | help | version | rounds | summary | summaryFile | fault => cases text? <;> exact spells

end Spellings

/-! ## Wordings of an assignment -/

namespace Words

variable {a : Assignment} {wordings : List Wording}

theorem gives_iff (words : a.Words wordings) (flag : Flag) :
    a.gives flag = true ↔ flag ∈ wordings.map Wording.flag := by
  refine ⟨words.complete flag, fun isIn => ?_⟩
  obtain ⟨w, worded, rfl⟩ := List.mem_map.1 isIn
  exact (words.spelled w worded).gives

theorem sound (words : a.Words wordings) : ∀ w ∈ wordings, w.Sound :=
  fun w isIn => (words.spelled w isIn).sound (words.fitting w isIn)

/-- A setting is read from the value of its option if every spelling is read so. -/
theorem bind_value? {α : Type} (words : a.Words wordings) {flag : Flag}
    {read : List Char → Option α} {setting : Option α} (takesValue : flag.takesValue = true)
    (given : a.gives flag = setting.isSome)
    (reads : ∀ text, a.Spells flag (some text) → read text = setting) :
    (value? (wordings.map Wording.given) flag).bind read = setting := by
  by_cases isIn : flag ∈ wordings.map Wording.flag
  · obtain ⟨w, worded, rfl⟩ := List.mem_map.1 isIn
    have spelled := words.spelled w worded
    rw [(words.sound w worded).takesValue] at takesValue
    obtain ⟨text, isText⟩ := Option.isSome_iff_exists.1 takesValue
    rw [isText] at spelled
    rw [value?_of_mem words.once worded, isText]
    exact reads text spelled
  · rw [value?_of_absent isIn]
    rw [← words.gives_iff, given, Option.not_isSome_iff_eq_none] at isIn
    exact isIn.symm

theorem logSettings (words : a.Words wordings) :
    LogSettings.ofGiven (wordings.map Wording.given) = ⟨a.level, a.logFile⟩ := by
  have level : (value? (wordings.map Wording.given) .log).bind Log.Level.read? = a.level := by
    refine words.bind_value? rfl rfl fun text spells => ?_
    obtain ⟨l, isSome, spelled⟩ := spells
    rw [isSome, Log.Level.read?_eq_some.2 spelled]
  have file : (value? (wordings.map Wording.given) .logFile).bind some = a.logFile :=
    words.bind_value? rfl rfl fun text spells => spells.symm
  rw [Option.bind_fun_some] at file
  rw [LogSettings.ofGiven, level, file]

theorem runSettings (words : a.Words wordings) :
    RunSettings.ofGiven (wordings.map Wording.given) = a.run := by
  have rounds : (value? (wordings.map Wording.given) .rounds).bind (fun text =>
      (Text.readPositive Flag.mostRounds text).toOption) = a.rounds := by
    refine words.bind_value? rfl rfl fun text spells => ?_
    obtain ⟨n, isSome, positive, fits, numeral⟩ := spells
    rw [isSome, Text.readPositive_of_numeral numeral positive fits]
    rfl
  have summary : (wordings.map Wording.given).any (·.flag = .summary) = a.summary := by
    have iff := (words.gives_iff .summary).trans Scan.any_settled.symm
    exact (Bool.eq_iff_iff.2 iff).symm
  have file : (value? (wordings.map Wording.given) .summaryFile).bind some = a.summaryFile :=
    words.bind_value? rfl rfl fun text spells => spells.symm
  have fault : (value? (wordings.map Wording.given) .fault).bind Fault.ofText? = a.fault := by
    refine words.bind_value? rfl rfl fun text spells => ?_
    obtain ⟨f, isSome, spelled⟩ := spells
    rw [isSome, spelled.ofText?_eq]
  rw [Option.bind_fun_some] at file
  rw [RunSettings.ofGiven, rounds, summary, file, fault]
  rfl

/-! ### The environment -/

section Environment

variable {env : Scan.Environment} {known : List Flag}

theorem offers_of_absent (words : a.Words wordings) {flag : Flag} {value : Argument}
    (absent : ¬ a.gives flag = true) (offered : flag.envName?.bind env = some value) :
    Scan.Offers env wordings flag value :=
  ⟨fun isIn => absent ((words.gives_iff flag).2 isIn), offered⟩

theorem not_gives_of_offers (words : a.Words wordings) {flag : Flag} {value : Argument}
    (offers : Scan.Offers env wordings flag value) : ¬ a.gives flag = true :=
  fun given => offers.1 (words.complete flag given)

/-- What the environment offers spells the settings about logging that are asked for. -/
theorem spells_of_offers (words : a.Words wordings) {log : LogSettings} (asks : a.Asks env log)
    {flag : Flag} {text : List Char} (offers : Scan.Offers env wordings flag (.ofText text)) :
    (a.filled log).Spells flag (some text) := by
  have absent := words.not_gives_of_offers offers
  obtain ⟨-, offered⟩ := offers
  cases flag with
  | log => exact asks.level.of_offered (Option.not_isSome_iff_eq_none.1 absent) offered
  | logFile =>
    have isNone : a.logFile = none := Option.not_isSome_iff_eq_none.1 absent
    obtain ⟨path, isSome, rfl⟩ := asks.file.of_offered isNone offered
    exact isSome
  | help | version | rounds | summary | summaryFile | fault => cases offered

/-- The options that the environment adds word the settings about logging that are asked for. -/
theorem filled (words : a.Words wordings) {log : LogSettings} (asks : a.Asks env log)
    (distinct : known.Nodup) (hasLevel : .log ∈ known) (hasFile : .logFile ∈ known) :
    (a.filled log).Words (wordings ++ Scan.supplied env wordings known) where
  once := Scan.nodup_supplied words.once distinct
  complete := by
    intro flag given
    rw [List.map_append, List.mem_append]
    -- Only a setting about logging can come from the environment.
    have added {flag : Flag} {text : List Char} (isKnown : flag ∈ known)
        (absent : ¬ a.gives flag = true)
        (offered : flag.envName?.bind env = some (.ofText text)) :
        flag ∈ (Scan.supplied env wordings known).map Wording.flag :=
      List.mem_map.2 ⟨⟨flag, some text, .joined⟩,
        Scan.mem_supplied.2 ⟨isKnown, text, rfl, words.offers_of_absent absent offered⟩, rfl⟩
    cases flag with
    | log =>
      rcases asks.level.source given with isSome | ⟨isNone, text, offered⟩
      · exact .inl (words.complete .log isSome)
      · exact .inr (added hasLevel (Option.not_isSome_iff_eq_none.2 isNone) offered)
    | logFile =>
      rcases asks.file.source given with isSome | ⟨isNone, text, offered⟩
      · exact .inl (words.complete .logFile isSome)
      · exact .inr (added hasFile (Option.not_isSome_iff_eq_none.2 isNone) offered)
    | help | version | rounds | summary | summaryFile | fault =>
      exact .inl (words.complete _ given)
  spelled := by
    intro w isIn
    rcases List.mem_append.1 isIn with worded | isAdded
    · exact (words.spelled w worded).filled asks
    · obtain ⟨-, text, isText, offers⟩ := Scan.mem_supplied.1 isAdded
      rw [isText]
      exact words.spells_of_offers asks offers
  fitting := by
    intro w isIn
    rcases List.mem_append.1 isIn with worded | isAdded
    · exact words.fitting w worded
    · obtain ⟨-, text, isText, -⟩ := Scan.mem_supplied.1 isAdded
      rw [isText]
      exact fun _ _ => trivial

/-- What the environment offers is in order exactly if nothing in it is malformed that counts. -/
theorem inOrder_iff (words : a.Words wordings) (hasLevel : .log ∈ known)
    (hasFile : .logFile ∈ known) : Scan.InOrder env wordings known ↔ ¬ a.Misled env := by
  constructor
  · rintro inOrder (⟨isNone, value, offered, garbled⟩ | ⟨isNone, value, offered, garbled⟩)
    · have offers : Scan.Offers env wordings .log value :=
        words.offers_of_absent (Option.not_isSome_iff_eq_none.2 isNone) offered
      obtain ⟨text, isText, isTaken⟩ := inOrder .log hasLevel value offers
      obtain ⟨l, spelled⟩ := refusal?_log.1 isTaken
      exact garbled text l isText spelled
    · have offers : Scan.Offers env wordings .logFile value :=
        words.offers_of_absent (Option.not_isSome_iff_eq_none.2 isNone) offered
      obtain ⟨text, isText, -⟩ := inOrder .logFile hasFile value offers
      exact garbled text text isText rfl
  · rintro clear flag - value offers
    have absent := words.not_gives_of_offers offers
    obtain ⟨-, offered⟩ := offers
    cases flag with
    | log =>
      obtain ⟨text, l, isText, spelled⟩ := spelled_of_clear
        (Option.not_isSome_iff_eq_none.1 absent) offered fun garbled => clear (.inl garbled)
      exact ⟨text, isText, refusal?_log.2 ⟨l, spelled⟩⟩
    | logFile =>
      obtain ⟨text, -, isText, -⟩ := spelled_of_clear
        (Option.not_isSome_iff_eq_none.1 absent) offered fun garbled => clear (.inr garbled)
      exact ⟨text, isText, rfl⟩
    | help | version | rounds | summary | summaryFile | fault => cases offered

/-- Malformed values for options that are not given are a mistake. -/
theorem run_misled (words : a.Words wordings) (isKnown : ∀ w ∈ wordings, w.flag ∈ known)
    (distinct : known.Nodup) (hasLevel : .log ∈ known) (hasFile : .logFile ∈ known)
    (misled : a.Misled env) :
    ∃ e, Scan.run known env (commandLine wordings) = .error (.mistake e) := by
  refine Scan.run_disordered words.sound isKnown words.once distinct fun inOrder => ?_
  exact (words.inOrder_iff hasLevel hasFile).1 inOrder misled

/-- Otherwise the scan comes to wordings of the assignment with the settings about logging that
are asked for. -/
theorem run_filled (words : a.Words wordings) (isKnown : ∀ w ∈ wordings, w.flag ∈ known)
    (distinct : known.Nodup) (hasLevel : .log ∈ known) (hasFile : .logFile ∈ known)
    (clear : ¬ a.Misled env) :
    ∃ log complete, a.Asks env log ∧ (a.filled log).Words complete ∧
      Scan.run known env (commandLine wordings) = .ok (complete.map Wording.given) := by
  obtain ⟨level, settlesLevel⟩ := exists_settles fun garbled => clear (.inl garbled)
  obtain ⟨file, settlesFile⟩ := exists_settles fun garbled => clear (.inr garbled)
  have asks : a.Asks env ⟨level, file⟩ := ⟨settlesLevel, settlesFile⟩
  refine ⟨⟨level, file⟩, _, asks, words.filled asks distinct hasLevel hasFile, ?_⟩
  exact Scan.run_inOrder words.sound isKnown words.once distinct
    (fun w isIn => (words.spelled w isIn).refusal?) ((words.inOrder_iff hasLevel hasFile).2 clear)

/-- Where no flag has a variable, the environment does not count. -/
theorem run_alone (words : a.Words wordings) (isKnown : ∀ w ∈ wordings, w.flag ∈ known)
    (distinct : known.Nodup) (alone : ∀ flag ∈ known, flag.envName? = none) :
    Scan.run known env (commandLine wordings) = .ok (wordings.map Wording.given) := by
  have noOffer : ∀ flag ∈ known, ∀ value, ¬ Scan.Offers env wordings flag value := by
    rintro flag isKnown value ⟨-, offered⟩
    rw [alone flag isKnown] at offered
    cases offered
  have nothing : Scan.supplied env wordings known = [] := by
    refine List.eq_nil_iff_forall_not_mem.2 fun w isAdded => ?_
    obtain ⟨isKnown, text, -, offers⟩ := Scan.mem_supplied.1 isAdded
    exact noOffer w.flag isKnown _ offers
  have scanned := Scan.run_inOrder words.sound isKnown words.once distinct
    (fun w isIn => (words.spelled w isIn).refusal?)
    fun flag isKnown value offers => absurd offers (noOffer flag isKnown value)
  rwa [nothing, List.append_nil] at scanned

end Environment

end Words

/-- **A command line is read as the assignment it words**, in whatever order and form. The options
about runs that are absent are left at their defaults. Those about logging are up to the
environment, which is a mistake if it is malformed, and is not looked at for an option that is
given. Each of the two kinds of options can be read by itself. -/
theorem read_commandLine {a : Assignment} {wordings : List Wording} (words : a.Words wordings)
    (env : Scan.Environment) :
    (a.Misled env → ∃ e, Settings.read env (commandLine wordings) = .error (.mistake e)) ∧
    (¬ a.Misled env → ∃ log, a.Asks env log ∧
      Settings.read env (commandLine wordings) = .ok ⟨log, a.run⟩) ∧
    ((∀ w ∈ wordings, w.flag ∈ Flag.running) →
      RunSettings.read env (commandLine wordings) = .ok a.run) ∧
    ((∀ w ∈ wordings, w.flag ∈ Flag.logging) →
      (a.Misled env → ∃ e, LogSettings.read env (commandLine wordings) = .error (.mistake e)) ∧
      (¬ a.Misled env → ∃ log, a.Asks env log ∧
        LogSettings.read env (commandLine wordings) = .ok log)) := by
  have isKnown : ∀ w ∈ wordings, w.flag ∈ Flag.all := fun w _ => by cases w.flag <;> decide
  refine ⟨fun misled => ?_, fun clear => ?_, fun running => ?_,
    fun logging => ⟨fun misled => ?_, fun clear => ?_⟩⟩
  · obtain ⟨e, mistaken⟩ := words.run_misled isKnown (by decide) (by decide) (by decide) misled
    exact ⟨e, by rw [Settings.read, mistaken]; rfl⟩
  · obtain ⟨log, complete, asks, filled, scanned⟩ :=
      words.run_filled isKnown (by decide) (by decide) (by decide) clear
    refine ⟨log, asks, ?_⟩
    rw [Settings.read, scanned]
    show Except.ok (Settings.mk _ _) = _
    rw [filled.logSettings, filled.runSettings]
    rfl
  · rw [RunSettings.read, words.run_alone running (by decide) (by decide)]
    show Except.ok _ = _
    rw [words.runSettings]
  · obtain ⟨e, mistaken⟩ := words.run_misled logging (by decide) (by decide) (by decide) misled
    exact ⟨e, by rw [LogSettings.read, mistaken]; rfl⟩
  · obtain ⟨log, complete, asks, filled, scanned⟩ :=
      words.run_filled logging (by decide) (by decide) (by decide) clear
    refine ⟨log, asks, ?_⟩
    rw [LogSettings.read, scanned]
    show Except.ok _ = _
    rw [filled.logSettings]
    rfl

/-- An assignment of everything but the log file. -/
def busy : Assignment where
  rounds := some (2 ^ 64 - 1)
  summary := true
  summaryFile := some "a=b".toList
  fault := some .join
  level := some (.upTo .debug)

/-- Wordings of it in all forms. -/
def busyWordings : List Wording :=
  [⟨.log, some "Debug".toList, .letter 'l'⟩, ⟨.summary, none, .apart⟩,
    ⟨.fault, some "jOIn".toList, .apart⟩, ⟨.summaryFile, some "a=b".toList, .joined⟩,
    ⟨.rounds, some "18446744073709551615".toList, .joined⟩]

theorem busy_words : busy.Words busyWordings where
  once := by decide
  complete := by
    intro flag
    cases flag <;> decide
  spelled := by
    have rounds : Text.Numeral (2 ^ 64 - 1) "18446744073709551615".toList :=
      ⟨_, .inl rfl, by decide, List.all_eq_true.1 (by decide), by decide⟩
    simp only [busyWordings, List.forall_mem_cons]
    refine ⟨⟨_, rfl, by decide⟩, rfl, ⟨_, rfl, by decide⟩, rfl,
      ⟨_, rfl, by decide, by decide, rounds⟩, by simp⟩
  fitting := by
    simp only [busyWordings, List.forall_mem_cons]
    refine ⟨?_, ?_, ?_, ?_, ?_, by simp⟩ <;> rintro text ⟨⟩ <;> decide

/-- An environment with a log file, and a malformed level that does not count. -/
def busyEnvironment : Scan.Environment
  | "THREADED_HELLO_LOG" => some [none]
  | "THREADED_HELLO_LOG_FILE" => some (.ofText "log".toList)
  | _ => none

theorem not_misled_busy : ¬ busy.Misled busyEnvironment := by
  rintro (⟨isNone, -⟩ | ⟨-, value, offered, garbled⟩)
  · cases isNone
  · cases offered
    exact garbled "log".toList "log".toList rfl rfl

theorem read_commandLine_busy :
    busy.Words busyWordings ∧
      Settings.read busyEnvironment (commandLine busyWordings) =
        .ok ⟨⟨some (.upTo .debug), some "log".toList⟩,
          ⟨2 ^ 64 - 1, true, some "a=b".toList, some .join⟩⟩ := by
  refine ⟨busy_words, ?_⟩
  obtain ⟨⟨level, file⟩, ⟨isLevel, text, path, isText, rfl, isFile⟩, read⟩ :=
    (read_commandLine busy_words busyEnvironment).2.1 not_misled_busy
  rw [read]
  cases isLevel
  cases isFile
  rw [Argument.ofText_inj.1 isText]
  rfl

/-- A path that is not well-formed Unicode is refused, so no command line words it. -/
theorem read_malformed_path :
    RunSettings.read (fun _ => none)
        [.ofText "--summary-json".toList, [some 'a', none, some 'b']] =
      .error (.mistake .malformedText) := by
  rfl

end Assignment

end Duet.CommandLine
