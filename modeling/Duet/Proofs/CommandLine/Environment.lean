import Duet.CommandLine.Settings
import Duet.Proofs.CommandLine.Wording
import Mathlib.Data.List.Nodup

/-!
# The environment behind the command line

What the environment has for an option counts only if the option is not on the command line, and
then it is as if it had been worded at the end. So whatever is read, it is read from a list of
wordings, with the environment's own behind the others.

**A scan comes to the options of the command line and those the environment adds, if what it
offers is in order** (`Scan.run_inOrder`), **and to a mistake if not** (`Scan.run_disordered`).
-/

namespace Duet.CommandLine

/-! ## The environment -/

namespace Scan

variable {env : Environment} {wordings : List Wording} {known : List Flag} {flag : Flag}

/-- What the environment offers for a flag that is not on the command line. -/
def Offers (env : Environment) (wordings : List Wording) (flag : Flag) (value : Argument) : Prop :=
  flag ∉ wordings.map Wording.flag ∧ flag.envName?.bind env = some value

/-- The option that the environment adds for a flag. -/
def addition? (env : Environment) (wordings : List Wording) (flag : Flag) : Option Wording :=
  if flag ∈ wordings.map Wording.flag then none
  else ((flag.envName?.bind env).bind Text.Utf8.whole?).map fun text => ⟨flag, some text, .joined⟩

/-- The options that the environment adds to those on the command line. -/
def supplied (env : Environment) (wordings : List Wording) (known : List Flag) : List Wording :=
  known.filterMap (addition? env wordings)

theorem addition?_eq_some {w : Wording} :
    addition? env wordings flag = some w ↔
      ∃ text, w = ⟨flag, some text, .joined⟩ ∧ Offers env wordings flag (.ofText text) := by
  unfold addition?
  split
  · next present => simp [Offers, present]
  · next absent =>
    rw [Option.map_eq_some_iff]
    constructor
    · rintro ⟨text, isText, rfl⟩
      obtain ⟨value, offered, isWhole⟩ := Option.bind_eq_some_iff.1 isText
      rw [Text.Utf8.whole?_eq_some.1 isWhole] at offered
      exact ⟨text, rfl, absent, offered⟩
    · rintro ⟨text, rfl, -, offered⟩
      exact ⟨text, Option.bind_eq_some_iff.2 ⟨_, offered, Argument.whole?_ofText text⟩, rfl⟩

theorem mem_supplied {w : Wording} :
    w ∈ supplied env wordings known ↔
      w.flag ∈ known ∧ ∃ text, w = ⟨w.flag, some text, .joined⟩ ∧
        Offers env wordings w.flag (.ofText text) := by
  rw [supplied, List.mem_filterMap]
  constructor
  · rintro ⟨flag, isKnown, added⟩
    obtain ⟨text, rfl, offers⟩ := addition?_eq_some.1 added
    exact ⟨isKnown, text, rfl, offers⟩
  · rintro ⟨isKnown, added⟩
    exact ⟨w.flag, isKnown, addition?_eq_some.2 added⟩

theorem supplied_concat {w : Wording} (absent : w.flag ∉ known) :
    supplied env (wordings ++ [w]) known = supplied env wordings known := by
  refine List.filterMap_congr fun flag isKnown => ?_
  have other : flag ≠ w.flag := fun same => absent (same ▸ isKnown)
  simp [addition?, other]

theorem supplied_skip (noOffer : ∀ value, ¬ Offers env wordings flag value) :
    supplied env wordings (flag :: known) = supplied env wordings known := by
  refine List.filterMap_cons_none (Option.eq_none_iff_forall_ne_some.2 fun w added => ?_)
  obtain ⟨text, -, offers⟩ := addition?_eq_some.1 added
  exact noOffer _ offers

theorem supplied_take {text : List Char} (offers : Offers env wordings flag (.ofText text)) :
    supplied env wordings (flag :: known) =
      ⟨flag, some text, .joined⟩ :: supplied env wordings known :=
  List.filterMap_cons_some (addition?_eq_some.2 ⟨text, rfl, offers⟩)

/-- No flag is added that is there already, or twice. -/
theorem nodup_supplied (once : (wordings.map Wording.flag).Nodup) (distinct : known.Nodup) :
    ((wordings ++ supplied env wordings known).map Wording.flag).Nodup := by
  have added : ((supplied env wordings known).map Wording.flag).Nodup := by
    rw [List.Nodup, List.pairwise_map, supplied, List.pairwise_filterMap]
    refine distinct.imp fun different w isFirst v isSecond => ?_
    obtain ⟨-, rfl, -⟩ := addition?_eq_some.1 isFirst
    obtain ⟨-, rfl, -⟩ := addition?_eq_some.1 isSecond
    exact different
  rw [List.map_append, List.nodup_append]
  refine ⟨once, added, fun flag worded other isAdded same => ?_⟩
  obtain ⟨w, isIn, rfl⟩ := List.mem_map.1 isAdded
  obtain ⟨-, -, -, absent, -⟩ := mem_supplied.1 isIn
  exact absent (same ▸ worded)

theorem fromEnvironment_skip (noOffer : ∀ value, ¬ Offers env wordings flag value) :
    fromEnvironment env (settled wordings) (flag :: known) =
      fromEnvironment env (settled wordings) known := by
  cases offered : flag.envName?.bind env with
  | none => simp only [fromEnvironment, offered]
  | some value =>
    have present : flag ∈ wordings.map Wording.flag :=
      Decidable.not_not.1 fun absent => noOffer value ⟨absent, offered⟩
    simp only [fromEnvironment, offered, if_pos (any_settled.2 present)]

theorem fromEnvironment_take {text : List Char}
    (offers : Offers env wordings flag (.ofText text)) :
    fromEnvironment env (settled wordings) (flag :: known) =
      fromEnvironment env (settled (wordings ++ [⟨flag, some text, .joined⟩])) known := by
  have entered : (settled wordings).enterValue flag (.ofText text) =
      .ok (settled (wordings ++ [⟨flag, some text, .joined⟩])) :=
    enterValue_settled (w := ⟨flag, some text, .joined⟩) offers.1 rfl
  have isNew := fun present => offers.1 (any_settled.1 present)
  simp only [fromEnvironment, offers.2, if_neg isNew, entered]

theorem fromEnvironment_refuse {value : Argument} (offers : Offers env wordings flag value)
    (malformed : ∀ text, value ≠ .ofText text) :
    fromEnvironment env (settled wordings) (flag :: known) =
      .error (.mistake .malformedText) := by
  have notWhole : Text.Utf8.whole? value = none := by
    cases isWhole : Text.Utf8.whole? value with
    | none => rfl
    | some text => exact absurd (Text.Utf8.whole?_eq_some.1 isWhole) (malformed text)
  have isNew := fun present => offers.1 (any_settled.1 present)
  simp only [fromEnvironment, offers.2, if_neg isNew, enterValue, notWhole]

/-- An offer for another flag stands when a flag has been entered. -/
theorem offers_concat {w : Wording} {value : Argument} :
    Offers env (wordings ++ [w]) flag value ↔ Offers env wordings flag value ∧ flag ≠ w.flag := by
  simp only [Offers, List.map_append, List.mem_append, List.map_cons, List.map_nil,
    List.mem_singleton, not_or]
  exact ⟨fun ⟨⟨absent, other⟩, offered⟩ => ⟨⟨absent, offered⟩, other⟩,
    fun ⟨⟨absent, offered⟩, other⟩ => ⟨⟨absent, other⟩, offered⟩⟩

/-- Texts in the environment are entered behind the options of the command line. -/
theorem fromEnvironment_eq (distinct : known.Nodup)
    (whole : ∀ flag ∈ known, ∀ value, Offers env wordings flag value →
      ∃ text, value = .ofText text) :
    fromEnvironment env (settled wordings) known =
      .ok (settled (wordings ++ supplied env wordings known)) := by
  induction known generalizing wordings with
  | nil => simp [fromEnvironment, supplied]
  | cons flag more ih =>
    obtain ⟨absentLater, distinct⟩ := List.nodup_cons.1 distinct
    obtain ⟨flagWhole, moreWhole⟩ := List.forall_mem_cons.1 whole
    by_cases offer : ∃ value, Offers env wordings flag value
    · obtain ⟨value, offers⟩ := offer
      obtain ⟨text, rfl⟩ := flagWhole value offers
      rw [fromEnvironment_take offers, supplied_take offers, ih distinct,
        supplied_concat absentLater, List.append_assoc]
      · rfl
      · exact fun f isLater value offers => moreWhole f isLater value (offers_concat.1 offers).1
    · rw [not_exists] at offer
      rw [fromEnvironment_skip offer, supplied_skip offer]
      exact ih distinct moreWhole

/-- A malformed text in the environment is a mistake if it is looked at. -/
theorem fromEnvironment_malformed {value : Argument} (isKnown : flag ∈ known)
    (offers : Offers env wordings flag value) (malformed : ∀ text, value ≠ .ofText text) :
    fromEnvironment env (settled wordings) known = .error (.mistake .malformedText) := by
  induction known generalizing wordings with
  | nil => cases isKnown
  | cons head more ih =>
    rcases List.mem_cons.1 isKnown with rfl | isLater
    · exact fromEnvironment_refuse offers malformed
    · by_cases offer : ∃ other, Offers env wordings head other
      · obtain ⟨other, headOffers⟩ := offer
        -- What comes before is entered, or is itself malformed and ends the scan the same way.
        by_cases isText : ∃ text, other = .ofText text
        · obtain ⟨text, rfl⟩ := isText
          have different : flag ≠ head := by
            rintro rfl
            have same := headOffers.2.symm.trans offers.2
            exact malformed text (Option.some.inj same).symm
          rw [fromEnvironment_take headOffers]
          exact ih isLater (offers_concat.2 ⟨offers, different⟩)
        · exact fromEnvironment_refuse headOffers (not_exists.1 isText)
      · rw [fromEnvironment_skip (not_exists.1 offer)]
        exact ih isLater offers

/-! ## Checks -/

theorem checkValues_eq_ok {values : List (List Char)} :
    checkValues flag values = .ok () ↔ ∀ value ∈ values, flag.refusal? value = none := by
  induction values with
  | nil => simp [checkValues]
  | cons value values ih =>
    rw [checkValues, List.forall_mem_cons, ← ih]
    cases flag.refusal? value <;> simp

theorem check_given {w : Wording} (takesValue : w.flag.takesValue = w.text.isSome) :
    check w.given = .ok () ↔ ∀ text ∈ w.text, w.flag.refusal? text = none := by
  have present : (w.given.flag.takesValue && w.given.values.isEmpty) = false := by
    cases isText : w.text <;> simp [Wording.given, takesValue, isText]
  have checked : check w.given = checkValues w.flag w.text.toList := by
    rw [check, present]
    show (checkValues w.flag w.text.toList >>= fun _ => .ok ()) = _
    cases checkValues w.flag w.text.toList <;> rfl
  rw [checked, checkValues_eq_ok]
  simp

theorem checkAll_eq_ok {given : List Given} :
    checkAll given = .ok () ↔ ∀ g ∈ given, check g = .ok () := by
  induction given with
  | nil => simp [checkAll]
  | cons g given ih =>
    rw [checkAll, List.forall_mem_cons, ← ih]
    cases check g <;> simp [bind, Except.bind]

/-! ## The whole scan -/

/-- What the environment offers is in order: texts that their flags take. -/
def InOrder (env : Environment) (wordings : List Wording) (known : List Flag) : Prop :=
  ∀ flag ∈ known, ∀ value, Offers env wordings flag value →
    ∃ text, value = .ofText text ∧ flag.refusal? text = none

theorem takesValue_of_offers {value : Argument} (offers : Offers env wordings flag value) :
    flag.takesValue = true := by
  obtain ⟨-, offered⟩ := offers
  cases flag <;> first | rfl | cases offered

/-- What a complete scan comes to: the options, once all of them have been checked. -/
def conclude (given : List Given) : Except Stop (List Given) :=
  match checkAll given with
  | .ok () => .ok given
  | .error e => .error (.mistake e)

/-- The environment is looked at once the command line has been scanned. -/
theorem run_commandLine (sound : ∀ w ∈ wordings, w.Sound) (isKnown : ∀ w ∈ wordings, w.flag ∈ known)
    (once : (wordings.map Wording.flag).Nodup) :
    run known env (commandLine wordings) =
      fromEnvironment env (settled wordings) known >>= fun complete =>
        conclude complete.given := by
  obtain ⟨s, holds, scanned⟩ := (holds_settled []).commandLine sound isKnown once
  have scanned : arguments {} known (commandLine wordings) = .ok s := scanned
  rw [run, scanned]
  simp only [bind, Except.bind, holds.settle_eq, holds.awaited?_eq]
  rfl

/-- A command line in order and an environment in order come to their options. -/
theorem run_inOrder (sound : ∀ w ∈ wordings, w.Sound) (isKnown : ∀ w ∈ wordings, w.flag ∈ known)
    (once : (wordings.map Wording.flag).Nodup) (distinct : known.Nodup)
    (taken : ∀ w ∈ wordings, ∀ text ∈ w.text, w.flag.refusal? text = none)
    (inOrder : InOrder env wordings known) :
    run known env (commandLine wordings) =
      .ok ((wordings ++ supplied env wordings known).map Wording.given) := by
  have whole : ∀ flag ∈ known, ∀ value, Offers env wordings flag value →
      ∃ text, value = .ofText text := by
    intro flag isKnown value offers
    obtain ⟨text, isText, -⟩ := inOrder flag isKnown value offers
    exact ⟨text, isText⟩
  have checked : checkAll ((wordings ++ supplied env wordings known).map Wording.given) =
      .ok () := by
    refine checkAll_eq_ok.2 fun g isGiven => ?_
    obtain ⟨w, isIn, rfl⟩ := List.mem_map.1 isGiven
    rcases List.mem_append.1 isIn with worded | added
    · exact (check_given (sound w worded).takesValue).2 (taken w worded)
    · obtain ⟨isKnown, text, isText, offers⟩ := mem_supplied.1 added
      have takesValue : w.flag.takesValue = w.text.isSome := by
        rw [isText]
        exact takesValue_of_offers offers
      refine (check_given takesValue).2 fun other isOther => ?_
      obtain ⟨same, isWhole, isTaken⟩ := inOrder w.flag isKnown _ offers
      rw [isText] at isOther
      cases isOther
      rwa [Argument.ofText_inj.1 isWhole]
  rw [run_commandLine sound isKnown once, fromEnvironment_eq distinct whole]
  show conclude ((wordings ++ supplied env wordings known).map Wording.given) = _
  rw [conclude, checked]

/-- An offer of the environment that is not in order is a mistake. -/
theorem run_disordered (sound : ∀ w ∈ wordings, w.Sound)
    (isKnown : ∀ w ∈ wordings, w.flag ∈ known) (once : (wordings.map Wording.flag).Nodup)
    (distinct : known.Nodup) (disorder : ¬ InOrder env wordings known) :
    ∃ e, run known env (commandLine wordings) = .error (.mistake e) := by
  rw [run_commandLine sound isKnown once]
  by_cases whole : ∀ flag ∈ known, ∀ value, Offers env wordings flag value →
      ∃ text, value = .ofText text
  · have refused : checkAll ((wordings ++ supplied env wordings known).map Wording.given) ≠
        .ok () := by
      intro checked
      refine disorder fun flag isKnown value offers => ?_
      obtain ⟨text, rfl⟩ := whole flag isKnown value offers
      have added : (⟨flag, some text, .joined⟩ : Wording) ∈ supplied env wordings known :=
        mem_supplied.2 ⟨isKnown, text, rfl, offers⟩
      have isChecked := checkAll_eq_ok.1 checked _
        (List.mem_map_of_mem (List.mem_append_right wordings added))
      exact ⟨text, rfl, (check_given (takesValue_of_offers offers)).1 isChecked text rfl⟩
    rw [fromEnvironment_eq distinct whole]
    show ∃ e, conclude ((wordings ++ supplied env wordings known).map Wording.given) = _
    unfold conclude
    cases checked : checkAll ((wordings ++ supplied env wordings known).map Wording.given) with
    | ok done => exact absurd checked refused
    | error e => exact ⟨e, rfl⟩
  · simp only [not_forall] at whole
    obtain ⟨flag, isKnown, value, offers, malformed⟩ := whole
    rw [fromEnvironment_malformed isKnown offers (not_exists.1 malformed)]
    exact ⟨.malformedText, rfl⟩

end Scan

/-! ## Values -/

theorem find?_given {wordings : List Wording} {w : Wording}
    (once : (wordings.map Wording.flag).Nodup) (isIn : w ∈ wordings) :
    (wordings.map Wording.given).find? (·.flag = w.flag) = some w.given := by
  refine find?_of_only (List.mem_map_of_mem isIn) (decide_eq_true rfl) fun g isGiven same => ?_
  obtain ⟨v, worded, rfl⟩ := List.mem_map.1 isGiven
  have same : v.flag = w.flag := of_decide_eq_true same
  rw [List.inj_on_of_nodup_map once worded isIn same]

/-- An option that is worded has the value it is worded with. -/
theorem value?_of_mem {wordings : List Wording} {w : Wording}
    (once : (wordings.map Wording.flag).Nodup) (isIn : w ∈ wordings) :
    value? (wordings.map Wording.given) w.flag = w.text := by
  rw [value?, Scan.valuesOf, find?_given once isIn]
  cases isText : w.text <;> simp [Wording.given, isText]

theorem value?_of_absent {wordings : List Wording} {flag : Flag}
    (absent : flag ∉ wordings.map Wording.flag) :
    value? (wordings.map Wording.given) flag = none := by
  have none : (wordings.map Wording.given).find? (·.flag = flag) = none := by
    refine List.find?_eq_none.2 fun g isGiven same => absent ?_
    obtain ⟨w, worded, rfl⟩ := List.mem_map.1 isGiven
    exact List.mem_map.2 ⟨w, worded, of_decide_eq_true same⟩
  rw [value?, Scan.valuesOf, none]
  rfl

end Duet.CommandLine
