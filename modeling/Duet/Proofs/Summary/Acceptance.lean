import Duet.Proofs.Summary.Fields
import Mathlib.Data.List.Perm.Basic

/-!
# Which objects are summaries

An object may have any members, in any order, with blanks and spellings of keys as the format
allows. Here it is told which of them are read as summaries, and as which.

**An object is a summary if it has each of four fields once and two others at most once, and if
every value that stands under a field's name can be read for that field**; the summary then holds
these values and nothing else. Members under other names have no influence, whatever they hold, and
neither has the order.

What this does not establish: which failure is reported for an object that is no summary. That
does depend on the order.
-/

namespace Duet.Summary

open Json (Gap Member ObjectText readWhole)

/-! ## What is asked of the members -/

/-- What the members of an object have to be. -/
structure Complete (ms : List Member) : Prop where
  once : ∀ f ∈ [Field.status, .code, .spawned, .joined],
    (valuesOf f.name.toList ms).length = 1
  atMostOnce : ∀ f ∈ [Field.failure, .elapsed], (valuesOf f.name.toList ms).length ≤ 1
  decodes : ∀ m ∈ ms, ∀ f : Field, m.key = f.name.toList → ∃ x, readWhole f.read m.value = .ok x

/-- What a summary read from members holds. -/
structure HoldsExactly (ms : List Member) (s : Summary) : Prop where
  present : ∀ m ∈ ms, ∀ f : Field, m.key = f.name.toList →
    readWhole f.read m.value = .ok (s.content f)
  noFailure : valuesOf Field.failure.name.toList ms = [] → s.failure = none
  noElapsed : valuesOf Field.elapsed.name.toList ms = [] → s.elapsed = none

/-- The members that have the name of a field, as keys and values. -/
def partsOf (ms : List Member) : List (List Char × List Char) :=
  (ms.map fun m => (m.key, m.value)).filter fun part => (Field.ofName? part.1).isSome

theorem mem_valuesOf {m : Member} {ms : List Member} {name : List Char} (isIn : m ∈ ms)
    (named : m.key = name) : m.value ∈ valuesOf name ms :=
  List.mem_map.2 ⟨m, List.mem_filter.2 ⟨isIn, by simpa using named⟩, rfl⟩

theorem exists_of_mem_valuesOf {v name : List Char} {ms : List Member}
    (isIn : v ∈ valuesOf name ms) : ∃ m ∈ ms, m.key = name ∧ m.value = v := by
  obtain ⟨m, filtered, value⟩ := List.mem_map.1 isIn
  obtain ⟨isIn, named⟩ := List.mem_filter.1 filtered
  exact ⟨m, isIn, by simpa using named, value⟩

/-! ## What each field is given -/

theorem Gives.decodes {ms : List Member} {f : Field} {x : f.Content} (gives : Gives ms f x)
    {m : Member} (isIn : m ∈ ms) (named : m.key = f.name.toList) :
    readWhole f.read m.value = .ok x := by
  have value := mem_valuesOf isIn named
  rcases gives with ⟨empty, _⟩ | ⟨v, one, decoded⟩
  · rw [empty] at value
    cases value
  · rw [one] at value
    rw [List.mem_singleton.1 value]
    exact decoded

theorem Gives.length_le {ms : List Member} {f : Field} {x : f.Content} (gives : Gives ms f x) :
    (valuesOf f.name.toList ms).length ≤ 1 := by
  rcases gives with ⟨empty, _⟩ | ⟨v, one, _⟩
  · simp [empty]
  · simp [one]

theorem Gives.length_eq {ms : List Member} {f : Field} {x : f.Content} (gives : Gives ms f x)
    (required : f.absent? = none) : (valuesOf f.name.toList ms).length = 1 := by
  rcases gives with ⟨_, absent⟩ | ⟨v, one, _⟩
  · rw [required] at absent
    cases absent
  · simp [one]

theorem Complete.gives {ms : List Member} (complete : Complete ms) (f : Field) :
    ∃ x, Gives ms f x := by
  have le : (valuesOf f.name.toList ms).length ≤ 1 := by
    cases f
    case failure => exact complete.atMostOnce _ (by simp)
    case elapsed => exact complete.atMostOnce _ (by simp)
    all_goals exact Nat.le_of_eq (complete.once _ (by simp))
  match values : valuesOf f.name.toList ms with
  | [] =>
    have required : f ∉ [Field.status, .code, .spawned, .joined] := by
      intro isIn
      have one := complete.once f isIn
      rw [values] at one
      cases one
    cases f
    case failure => exact ⟨_, .inl ⟨values, rfl⟩⟩
    case elapsed => exact ⟨_, .inl ⟨values, rfl⟩⟩
    all_goals exact absurd (by simp) required
  | [v] =>
    obtain ⟨m, isIn, named, rfl⟩ :=
      exists_of_mem_valuesOf (show v ∈ valuesOf f.name.toList ms by simp [values])
    obtain ⟨x, decoded⟩ := complete.decodes m isIn f named
    exact ⟨x, .inr ⟨_, values, decoded⟩⟩
  | _ :: _ :: _ =>
    rw [values] at le
    simp at le

theorem exists_gives_iff {ms : List Member} :
    (∃ s : Summary, ∀ f, Gives ms f (s.content f)) ↔ Complete ms := by
  constructor
  · rintro ⟨s, gives⟩
    refine ⟨fun f isIn => (gives f).length_eq ?_, fun f _ => (gives f).length_le,
      fun m isIn f named => ⟨_, (gives f).decodes isIn named⟩⟩
    cases f <;> first | rfl | simp at isIn
  · intro complete
    choose x gives using complete.gives
    refine ⟨ofContents x, fun f => ?_⟩
    rw [content_ofContents fun f => (gives f).valid]
    exact gives f

theorem holdsExactly_of_gives {ms : List Member} {s : Summary}
    (gives : ∀ f, Gives ms f (s.content f)) : HoldsExactly ms s where
  present m isIn f named := (gives f).decodes isIn named
  noFailure empty := by
    rcases gives .failure with ⟨_, absent⟩ | ⟨v, one, _⟩
    · have same : none = s.failure.map (·.toList) := Option.some.inj absent
      exact Option.map_eq_none_iff.1 same.symm
    · rw [empty] at one
      cases one
  noElapsed empty := by
    rcases gives .elapsed with ⟨_, absent⟩ | ⟨v, one, _⟩
    · exact (Option.some.inj absent).symm
    · rw [empty] at one
      cases one

/-! ## Order and other members -/

theorem valuesOf_eq_partsOf (f : Field) (ms : List Member) :
    valuesOf f.name.toList ms =
      ((partsOf ms).filter (·.1 = f.name.toList)).map (·.2) := by
  rw [valuesOf_eq, partsOf, List.filter_filter]
  refine congrArg _ (List.filter_congr fun part _ => ?_)
  by_cases named : part.1 = f.name.toList
  · simp [named, Field.ofName?_name]
  · simp [named]

theorem gives_of_perm {ms ms' : List Member} (same : (partsOf ms).Perm (partsOf ms')) {f : Field}
    {x : f.Content} (gives : Gives ms f x) : Gives ms' f x := by
  have values : (valuesOf f.name.toList ms).Perm (valuesOf f.name.toList ms') := by
    rw [valuesOf_eq_partsOf, valuesOf_eq_partsOf]
    exact (same.filter _).map _
  rcases gives with ⟨empty, absent⟩ | ⟨v, one, decoded⟩
  · rw [empty] at values
    exact .inl ⟨values.nil_eq.symm, absent⟩
  · rw [one] at values
    exact .inr ⟨v, values.singleton_eq.symm, decoded⟩

/-- **Which objects are summaries, and which summaries they are.** -/
theorem parse_object_complete (lead trail : Gap) (o : ObjectText) :
    ((∃ s, parse (lead.1 ++ o.text ++ trail.1) = .ok s) ↔ Complete o.members) ∧
    (∀ s, parse (lead.1 ++ o.text ++ trail.1) = .ok s → HoldsExactly o.members s) ∧
    ∀ (lead' trail' : Gap) (o' : ObjectText),
      (partsOf o.members).Perm (partsOf o'.members) →
      (parse (lead'.1 ++ o'.text ++ trail'.1)).toOption =
        (parse (lead.1 ++ o.text ++ trail.1)).toOption := by
  refine ⟨?_, fun s accepted => ?_, fun lead' trail' o' same => ?_⟩
  · simp only [parse_object_iff]
    exact exists_gives_iff
  · exact holdsExactly_of_gives ((parse_object_iff lead trail o s).1 accepted)
  · ext s
    rw [Json.toOption_eq_some, Json.toOption_eq_some, parse_object_iff, parse_object_iff]
    constructor
    · intro gives f
      exact gives_of_perm same.symm (gives f)
    · intro gives f
      exact gives_of_perm same (gives f)

/-- A member without blanks, its key spelled with as few escapes as possible. -/
private def bare (key : String) {value : List Char} (isValue : Json.IsValue value) : Member where
  key := key.toList
  value := value
  spelling := Json.escape key.toList
  spells := Json.spells_escape key.toList
  isValue := isValue
  before := ⟨[], .nil⟩
  colon := ⟨[], .nil⟩
  lead := ⟨[], .nil⟩
  after := ⟨[], .nil⟩

private theorem isValue_one : Json.IsValue ['1'] := by
  have whole : Json.Whole ['1'] := .inr ⟨⟨by simp, by simp [Text.isDigit]⟩, by simp⟩
  exact .number (.positive whole (.inl rfl) (.inl rfl))

private theorem isValue_success : Json.IsValue "\"Success\"".toList :=
  .string (Json.spells_escape "Success".toList).literal

private theorem blanks_space : Json.Blanks [' '] := by
  decide

private theorem isValue_nested : Json.IsValue "[\x7b \x7d]".toList :=
  .bracket (.one (.element .nil (.empty .object blanks_space) .nil))

private theorem spells_code :
    Json.Spells ('\\' :: ['u', '0', '0', '6', '3'] ++ Json.escape "ode".toList) "code".toList :=
  .escape (.code (.digits (w := 0) (x := 0) (y := 6) (z := 3) (by decide) (by decide) (by decide)
    (by decide)) (by decide) (by decide)) (Json.spells_escape "ode".toList)

/-- Four fields, with one key spelled out and a member that is no field. -/
private def shuffled : ObjectText where
  blank := ⟨[' '], blanks_space⟩
  members := [bare "threads_joined" isValue_one, bare "more" isValue_nested,
    { bare "code" isValue_one with spelling := _, spells := spells_code },
    bare "status" isValue_success, bare "threads_spawned" isValue_one]

/-- The same four fields in another order and nothing else. -/
private def plain : ObjectText where
  blank := ⟨[], .nil⟩
  members := [bare "status" isValue_success, bare "code" isValue_one,
    bare "threads_spawned" isValue_one, bare "threads_joined" isValue_one]

theorem parse_object_complete_shuffled :
    shuffled.text = ("\x7b \"threads_joined\":1,\"more\":[\x7b \x7d],\"\\u0063ode\":1," ++
      "\"status\":\"Success\",\"threads_spawned\":1\x7d").toList ∧
    (partsOf plain.members).Perm (partsOf shuffled.members) ∧
    (parse ([] ++ plain.text ++ [])).toOption =
      some { status := .success, code := 1, spawned := 1, joined := 1 } ∧
    (parse ([] ++ shuffled.text ++ [])).toOption = (parse ([] ++ plain.text ++ [])).toOption := by
  have same : (partsOf plain.members).Perm (partsOf shuffled.members) := by decide
  refine ⟨by decide +kernel, same, by decide +kernel, ?_⟩
  exact (parse_object_complete ⟨[], .nil⟩ ⟨[], .nil⟩ plain).2.2 ⟨[], .nil⟩ ⟨[], .nil⟩ shuffled same

end Duet.Summary
