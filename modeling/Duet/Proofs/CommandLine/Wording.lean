import Duet.CommandLine.Scan
import Duet.Proofs.Text.Utf8

/-!
# Writing options on a command line

An option can be worded in several ways: its value in an argument of its own, after an equals
sign, or after the one-letter name. The scanner sets a value of its own aside until it knows what
follows, so two of these wordings leave it in different states; what it has entered once it
settles is the same, and can be told from the options alone.

**Scanning a command line enters the options it words, each once, in their order**
(`Scan.Holds.commandLine`).
-/

namespace Duet.CommandLine

/-! ## Wordings -/

/-- How a value is put next to the name of its flag. -/
inductive Form where
  /-- The value is the next argument. -/
  | apart
  /-- The value follows the name after an equals sign. -/
  | joined
  /-- The name is one letter, and the value is the next argument. -/
  | letter (name : Char)
  deriving DecidableEq, Repr

/-- An option as worded on a command line. -/
structure Wording where
  flag : Flag
  /-- The value, for a flag that takes one. -/
  text : Option (List Char)
  form : Form
  deriving DecidableEq, Repr

namespace Wording

/-- The long name with its hyphens. -/
def name (w : Wording) : List Char :=
  '-' :: '-' :: w.flag.long.toList

/-- The arguments that the option is written as. -/
def arguments (w : Wording) : List Argument :=
  match w.text, w.form with
  | none, _ => [.ofText w.name]
  | some text, .apart => [.ofText w.name, .ofText text]
  | some text, .joined => [.ofText (w.name ++ '=' :: text)]
  | some text, .letter c => [.ofText ['-', c], .ofText text]

/-- The option as the scanner enters it. -/
def given (w : Wording) : Given :=
  ⟨w.flag, 1, w.text.toList⟩

/-- The form is one that the option can have: a value that is an argument does not look like a
flag, and a letter is the flag's own. -/
def Fitting (w : Wording) : Prop :=
  ∀ text ∈ w.text,
    match w.form with
    | .apart => text.head? ≠ some '-'
    | .joined => True
    | .letter c => w.flag.short? = some c ∧ text.head? ≠ some '-'

/-- The option can be worded so: it is no request for help, has a value exactly if it takes one,
and its form fits. -/
structure Sound (w : Wording) : Prop where
  settable : w.flag ≠ .help ∧ w.flag ≠ .version
  takesValue : w.flag.takesValue = w.text.isSome
  fitting : w.Fitting

end Wording

/-- The command line that words some options, one after the other. -/
def commandLine (wordings : List Wording) : List Argument :=
  wordings.flatMap Wording.arguments

/-! ## Names -/

namespace Flag

theorem long_injective {f g : Flag} (same : f.long.toList = g.long.toList) : f = g := by
  revert same
  cases f <;> cases g <;> decide

theorem short?_injective {f g : Flag} {c : Char} (first : f.short? = some c)
    (second : g.short? = some c) : f = g := by
  rw [← first] at second
  revert first second
  cases f <;> cases g <;> simp [short?]

theorem long_plain (f : Flag) : f.long.toList.all (· ≠ '=') = true := by
  cases f <;> decide

theorem long_ne_nil (f : Flag) : f.long.toList ≠ [] := by
  cases f <;> decide

theorem short?_ne_hyphen (f : Flag) : f.short? ≠ some '-' := by
  cases f <;> decide

end Flag

@[simp] theorem Argument.ofText_cons (c : Char) (text : List Char) :
    Argument.ofText (c :: text) = some c :: Argument.ofText text := rfl

@[simp] theorem Argument.ofText_append (text more : List Char) :
    Argument.ofText (text ++ more) = Argument.ofText text ++ Argument.ofText more :=
  List.map_append

theorem Argument.ofText_inj {text other : List Char} :
    Argument.ofText text = Argument.ofText other ↔ text = other :=
  List.map_inj_right fun _ _ => Option.some.inj

theorem Argument.whole?_ofText (text : List Char) :
    Text.Utf8.whole? (Argument.ofText text) = some text :=
  Text.Utf8.whole?_eq_some.2 rfl

/-- The only element of its kind is the one found. -/
theorem find?_of_only {α : Type} {p : α → Bool} {xs : List α} {x : α} (isIn : x ∈ xs)
    (holds : p x = true) (only : ∀ y ∈ xs, p y = true → y = x) : xs.find? p = some x := by
  cases found : xs.find? p with
  | none => exact absurd holds (List.find?_eq_none.1 found x isIn)
  | some y => rw [only y (List.mem_of_find?_eq_some found) (List.find?_some found)]

theorem find?_long {known : List Flag} {flag : Flag} (isKnown : flag ∈ known) :
    (known.find? fun f => Argument.ofText f.long.toList = Argument.ofText flag.long.toList) =
      some flag :=
  find?_of_only isKnown (by simp) fun f _ same =>
    Flag.long_injective (Argument.ofText_inj.1 (of_decide_eq_true same))

theorem find?_short {known : List Flag} {flag : Flag} {c : Char} (isKnown : flag ∈ known)
    (short : flag.short? = some c) : known.find? (·.short? = some c) = some flag :=
  find?_of_only isKnown (decide_eq_true short) fun _ _ same =>
    Flag.short?_injective (of_decide_eq_true same) short

/-! ## Arguments -/

namespace Scan

variable {s : Scan} {known : List Flag} {flag : Flag} {later : List Argument}

theorem arguments_cons {next : Scan} {arg : Argument} (notEnd : arg ≠ [some '-', some '-'])
    (taken : s.argument known later arg = .ok next) :
    s.arguments known (arg :: later) = next.arguments known later := by
  cases later <;> simp only [arguments, if_neg notEnd, taken]

/-- A long name has no equals sign, so it ends where the text ends or has one. -/
theorem takeWhile_long (flag : Flag) (rest : Argument) :
    (Argument.ofText flag.long.toList ++ rest).takeWhile (· ≠ some '=') =
      Argument.ofText flag.long.toList ++ rest.takeWhile (· ≠ some '=') :=
  List.takeWhile_append_of_pos (by simpa [Argument.ofText] using flag.long_plain)

theorem dropWhile_long (flag : Flag) (rest : Argument) :
    (Argument.ofText flag.long.toList ++ rest).dropWhile (· ≠ some '=') =
      rest.dropWhile (· ≠ some '=') :=
  List.dropWhile_append_of_pos (by simpa [Argument.ofText] using flag.long_plain)

/-- A long name by itself marks its flag or waits for the value. -/
theorem argument_name (isKnown : flag ∈ known) :
    s.argument known later (.ofText ('-' :: '-' :: flag.long.toList)) =
      if flag.takesValue then s.await flag else s.mark flag .longHelp := by
  have name := takeWhile_long flag []
  have rest := dropWhile_long flag []
  simp only [List.append_nil, List.takeWhile_nil, List.dropWhile_nil] at name rest
  show s.long known later (.ofText flag.long.toList) = _
  simp only [long, name, rest, find?_long isKnown]
  cases flag.takesValue <;> rfl

/-- A long name with a value after an equals sign attaches the value, which may have more equals
signs in it. -/
theorem argument_joined (isKnown : flag ∈ known) (takes : flag.takesValue = true)
    (text : List Char) :
    s.argument known later (.ofText ('-' :: '-' :: flag.long.toList ++ '=' :: text)) =
      s.attach flag (.ofText text) := by
  have name := takeWhile_long flag (some '=' :: Argument.ofText text)
  have rest := dropWhile_long flag (some '=' :: Argument.ofText text)
  simp only [List.takeWhile_cons, List.dropWhile_cons, ne_eq, not_true_eq_false, decide_false,
    Bool.false_eq_true, if_false, List.append_nil] at name rest
  show s.long known later (.ofText (flag.long.toList ++ '=' :: text)) = _
  simp only [Argument.ofText_append, Argument.ofText_cons, long, ne_eq, name, rest,
    find?_long isKnown, takes]
  rfl

/-- A letter by itself waits for the value of its flag. -/
theorem argument_letter {c : Char} (isKnown : flag ∈ known) (takes : flag.takesValue = true)
    (short : flag.short? = some c) :
    s.argument known later (.ofText ['-', c]) = s.await flag := by
  have notHyphen : c ≠ '-' := fun same => flag.short?_ne_hyphen (same ▸ short)
  have letters : s.argument known later (.ofText ['-', c]) = s.letters known [some c] := by
    simp [Argument.ofText, argument, notHyphen]
  rw [letters]
  simp [Scan.letters, find?_short isKnown short, takes]

/-- A text that does not look like a flag is taken for a value. -/
theorem argument_value {text : List Char} (noFlag : text.head? ≠ some '-') :
    s.argument known later (.ofText text) = s.plain (.ofText text) := by
  cases text with
  | nil => rfl
  | cons c text =>
    have notHyphen : c ≠ '-' := by simpa using noFlag
    simp [Argument.ofText, argument, notHyphen]

/-! ## Entering -/

/-- The scan with the worded options entered, and nothing set aside. -/
def settled (wordings : List Wording) : Scan :=
  ⟨wordings.map Wording.given, none⟩

/-- The scan comes to the worded options once it settles, and is not waiting for a value. -/
structure Holds (s : Scan) (wordings : List Wording) : Prop where
  settle_eq : s.settle = .ok (settled wordings)
  awaited?_eq : s.awaited? = none

theorem holds_settled (wordings : List Wording) : (settled wordings).Holds wordings :=
  ⟨rfl, rfl⟩

theorem any_settled {wordings : List Wording} :
    (settled wordings).given.any (·.flag = flag) = true ↔
      flag ∈ wordings.map Wording.flag := by
  rw [List.any_eq_true]
  constructor
  · rintro ⟨g, isGiven, same⟩
    obtain ⟨w, isIn, rfl⟩ := List.mem_map.1 isGiven
    exact List.mem_map.2 ⟨w, isIn, of_decide_eq_true same⟩
  · intro isIn
    obtain ⟨w, worded, rfl⟩ := List.mem_map.1 isIn
    exact ⟨w.given, List.mem_map_of_mem worded, decide_eq_true rfl⟩

/-- A flag that is new is entered behind the others. -/
theorem enter_settled {wordings : List Wording} {w : Wording}
    (fresh : w.flag ∉ wordings.map Wording.flag) :
    (settled wordings).enter w.flag w.text.toList = settled (wordings ++ [w]) := by
  rw [enter, if_neg fun isIn => fresh (any_settled.1 isIn)]
  simp [settled, Wording.given]

theorem enterValue_settled {wordings : List Wording} {w : Wording} {text : List Char}
    (fresh : w.flag ∉ wordings.map Wording.flag) (isText : w.text = some text) :
    (settled wordings).enterValue w.flag (.ofText text) = .ok (settled (wordings ++ [w])) := by
  have entered := enter_settled fresh
  rw [isText] at entered
  rw [enterValue, Argument.whole?_ofText]
  exact congrArg Except.ok entered

section Step

variable {before : List Wording} {w : Wording}

theorem Holds.mark (holds : s.Holds before) (sound : w.Sound) (isNone : w.text = none)
    (fresh : w.flag ∉ before.map Wording.flag) :
    s.mark w.flag .longHelp = .ok (settled (before ++ [w])) := by
  have entered := enter_settled fresh
  rw [isNone] at entered
  obtain ⟨noHelp, noVersion⟩ := sound.settable
  rw [Scan.mark, holds.settle_eq]
  cases flag : w.flag <;> simp_all [bind, Except.bind]

theorem Holds.attach {text : List Char} (holds : s.Holds before) (isText : w.text = some text)
    (fresh : w.flag ∉ before.map Wording.flag) :
    s.attach w.flag (.ofText text) = .ok (settled (before ++ [w])) := by
  rw [Scan.attach, holds.settle_eq]
  exact enterValue_settled fresh isText

/-- A flag that waits, then the value in an argument of its own, which is set aside. -/
theorem Holds.await {text : List Char} {name : Argument} (holds : s.Holds before)
    (isText : w.text = some text) (fresh : w.flag ∉ before.map Wording.flag)
    (notEnd : name ≠ [some '-', some '-'])
    (named : s.argument known (.ofText text :: later) name = s.await w.flag)
    (noFlag : text.head? ≠ some '-') :
    ∃ next : Scan, next.Holds (before ++ [w]) ∧
      s.arguments known (name :: .ofText text :: later) = next.arguments known later := by
  -- The value is entered only when the scan settles, so the invariant is about that moment.
  let waiting : Scan := { settled before with pending := some (w.flag, none) }
  let aside : Scan := { settled before with pending := some (w.flag, some (.ofText text)) }
  have waits : s.await w.flag = .ok waiting := by
    rw [Scan.await, holds.settle_eq]
    rfl
  have takes : waiting.argument known later (.ofText text) = .ok aside := argument_value noFlag
  have valueNotEnd : Argument.ofText text ≠ [some '-', some '-'] := by
    intro same
    have isHyphens : text = ['-', '-'] := Argument.ofText_inj.1 same
    exact noFlag (by rw [isHyphens]; rfl)
  refine ⟨aside, ⟨?_, rfl⟩, ?_⟩
  · exact enterValue_settled fresh isText
  · rw [arguments_cons notEnd (named.trans waits), arguments_cons valueNotEnd takes]

/-- **An option on the command line is entered**, however it is worded. -/
theorem Holds.wording (holds : s.Holds before) (sound : w.Sound) (isKnown : w.flag ∈ known)
    (fresh : w.flag ∉ before.map Wording.flag) (later : List Argument) :
    ∃ next : Scan, next.Holds (before ++ [w]) ∧
      s.arguments known (w.arguments ++ later) = next.arguments known later := by
  have takesValue := sound.takesValue
  have fitting := sound.fitting
  have nameNotEnd : Argument.ofText w.name ≠ [some '-', some '-'] := by
    simp [Wording.name, Argument.ofText, w.flag.long_ne_nil]
  cases isText : w.text with
  | none =>
    rw [isText] at takesValue
    refine ⟨settled (before ++ [w]), holds_settled _, ?_⟩
    have taken : s.argument known later (.ofText w.name) = .ok (settled (before ++ [w])) := by
      rw [Wording.name, argument_name isKnown, takesValue]
      exact holds.mark sound isText fresh
    rw [Wording.arguments, isText]
    exact arguments_cons nameNotEnd taken
  | some text =>
    rw [isText] at takesValue
    have fits := fitting text isText
    cases isForm : w.form with
    | apart =>
      rw [isForm] at fits
      have named : s.argument known (.ofText text :: later) (.ofText w.name) =
          s.await w.flag := by
        rw [Wording.name, argument_name isKnown, takesValue]
        rfl
      rw [Wording.arguments, isText, isForm]
      exact holds.await isText fresh nameNotEnd named fits
    | joined =>
      refine ⟨settled (before ++ [w]), holds_settled _, ?_⟩
      rw [Wording.arguments, isText, isForm]
      refine arguments_cons ?_ ((argument_joined isKnown takesValue text).trans
        (holds.attach isText fresh))
      simp [Wording.name, Argument.ofText]
    | letter c =>
      rw [isForm] at fits
      have notEnd : Argument.ofText ['-', c] ≠ [some '-', some '-'] := by
        intro same
        cases same
        exact w.flag.short?_ne_hyphen fits.1
      rw [Wording.arguments, isText, isForm]
      exact holds.await isText fresh notEnd (argument_letter isKnown takesValue fits.1) fits.2

end Step

/-- **A command line is scanned into the options it words**, behind those already held. -/
theorem Holds.commandLine {before wordings : List Wording} (holds : s.Holds before)
    (sound : ∀ w ∈ wordings, w.Sound) (isKnown : ∀ w ∈ wordings, w.flag ∈ known)
    (once : ((before ++ wordings).map Wording.flag).Nodup) :
    ∃ next : Scan, next.Holds (before ++ wordings) ∧
      s.arguments known (commandLine wordings) = .ok next := by
  induction wordings generalizing s before with
  | nil =>
    rw [List.append_nil]
    exact ⟨s, holds, rfl⟩
  | cons w wordings ih =>
    -- The options already held grow by one, and no later one names their flags again.
    obtain ⟨wSound, sound⟩ := List.forall_mem_cons.1 sound
    obtain ⟨wKnown, isKnown⟩ := List.forall_mem_cons.1 isKnown
    have fresh : w.flag ∉ before.map Wording.flag := by
      intro isIn
      rw [List.map_append, List.nodup_append] at once
      exact once.2.2 w.flag isIn w.flag (List.mem_map_of_mem List.mem_cons_self) rfl
    obtain ⟨next, nextHolds, taken⟩ :=
      holds.wording wSound wKnown fresh (CommandLine.commandLine wordings)
    have regroup : before ++ w :: wordings = (before ++ [w]) ++ wordings := by simp
    rw [regroup] at once ⊢
    obtain ⟨last, lastHolds, scanned⟩ := ih nextHolds sound isKnown once
    exact ⟨last, lastHolds, taken.trans scanned⟩

end Scan

end Duet.CommandLine
