import Duet.Proofs.Summary.Parts

/-!
# Summaries by their fields

The six parts of a summary have different types and are read by different readers. Here each is
one value of a family over `Field`: what it holds in a draft and in a summary, how it is read, and
which values mean something for it. What is said of a field is then said of all.

**Reading an object gathers each field from the one member that has its name**
(`parse_object_iff`), and from nothing where a field may be absent.

The induction is over the members; its invariant tells for each field apart whether it was there
before, and since no member is the business of two fields, the order of members never comes in.
-/

namespace Duet.Summary

open Json (Gap Member ObjectText Reader Recognizes readWhole foldMembers)

namespace Field

/-- What a field holds. -/
def Content : Field → Type
  | .status => Status
  | .code | .spawned | .joined => Int
  | .failure => Option (List Char)
  | .elapsed => Option Duration

/-- How the value of a field is read. -/
def read : (f : Field) → Reader f.Content
  | .status => Status.read
  | .code => Json.readInteger Json.int32Range
  | .failure => Json.readOptional Json.readText
  | .spawned | .joined => Json.readInteger Json.uint64Range
  | .elapsed => Json.readOptional Duration.read

/-- Which values mean something for a field. -/
def Means : (f : Field) → List Char → f.Content → Prop
  | .status => Status.Means
  | .code => Json.int32Range.Means
  | .failure => Json.OptionMeans Json.TextMeans
  | .spawned | .joined => Json.uint64Range.Means
  | .elapsed => Json.OptionMeans Duration.Means

/-- What a field holds if no member has its name, where that is allowed. -/
def absent? : (f : Field) → Option f.Content
  | .failure => some (none : Option (List Char))
  | .elapsed => some (none : Option Duration)
  | .status | .code | .spawned | .joined => none

/-- **Every field is read from exactly the values that mean something for it.** -/
theorem recognizes (f : Field) : Recognizes f.read f.Means := by
  cases f with
  | status => exact Status.recognizes
  | code => exact Json.readInteger_recognizes Json.int32Range_exact
  | spawned => exact Json.readInteger_recognizes Json.uint64Range_exact
  | joined => exact Json.readInteger_recognizes Json.uint64Range_exact
  | failure =>
    refine Json.readOptional_recognizes Json.readText_recognizes ?_
    rintro w cs ⟨k, rfl, _⟩
    simp
  | elapsed =>
    refine Json.readOptional_recognizes Duration.recognizes ?_
    rintro w d (⟨a, b, c, e, _, _, _⟩ | ⟨o, rfl, _⟩)
    · simp
    · simp [ObjectText.text]

theorem ofName?_eq_some {name : List Char} {f : Field} :
    ofName? name = some f ↔ name = f.name.toList := by
  constructor
  · intro found
    have same := List.find?_some found
    exact (by simpa using same : f.name.toList = name).symm
  · rintro rfl
    exact ofName?_name f

end Field

/-! ## Drafts by their fields -/

namespace Draft

/-- What a draft holds for a field. -/
def get (d : Draft) : (f : Field) → Option f.Content
  | .status => d.status
  | .code => d.code
  | .failure => d.failure
  | .spawned => d.spawned
  | .joined => d.joined
  | .elapsed => d.elapsed

/-- A draft with another content of a field. -/
def set (d : Draft) : (f : Field) → f.Content → Draft
  | .status, x => { d with status := some x }
  | .code, x => { d with code := some x }
  | .failure, x => { d with failure := some x }
  | .spawned, x => { d with spawned := some x }
  | .joined, x => { d with joined := some x }
  | .elapsed, x => { d with elapsed := some x }

theorem get_set_self (d : Draft) (f : Field) (x : f.Content) : (d.set f x).get f = some x := by
  cases f <;> rfl

theorem get_set_of_ne (d : Draft) {f g : Field} (x : f.Content) (other : g ≠ f) :
    (d.set f x).get g = d.get g := by
  cases f <;> cases g <;> first | rfl | exact absurd rfl other

theorem get_empty (f : Field) : ({} : Draft).get f = none := by
  cases f <;> rfl

theorem has_eq (d : Draft) (f : Field) : d.has f = (d.get f).isSome := by
  cases f <;> rfl

theorem ext_get {d e : Draft} (same : ∀ f, d.get f = e.get f) : d = e := by
  obtain ⟨_, _, _, _, _, _⟩ := d
  obtain ⟨_, _, _, _, _, _⟩ := e
  have status := same .status
  have code := same .code
  have failure := same .failure
  have spawned := same .spawned
  have joined := same .joined
  have elapsed := same .elapsed
  simp only [get] at status code failure spawned joined elapsed
  rw [status, code, failure, spawned, joined, elapsed]

theorem readField_eq (d : Draft) (f : Field) (text : List Char) :
    d.readField f text = (f.read text).map fun x => (d.set f x.1, x.2) := by
  cases f <;> rfl

end Draft

/-! ## Members of the object form -/

/-- What a member adds to the parts read before it. -/
def step (d : Draft) (key v : List Char) : Option Draft :=
  match Field.ofName? key with
  | none => some d
  | some f => if d.has f then none else (readWhole f.read v).toOption.map (d.set f)

theorem toOption_readAfterKey_readField (d : Draft) (f : Field) {text v rest : List Char}
    (follows : Json.FollowsKey text v rest) :
    (Json.readAfterKey (d.readField f) text).toOption =
      ((readWhole f.read v).toOption.map (d.set f)).map (·, rest) := by
  rw [Json.readAfterKey_map (d.readField_eq f), Json.toOption_map,
    Json.toOption_readAfterKey f.recognizes follows]
  cases (readWhole f.read v).toOption <;> rfl

theorem stepwise : Json.Stepwise readMember step where
  toOption_member := by
    intro d key text v rest follows
    unfold readMember step
    cases Field.ofName? key with
    | none =>
      dsimp only
      rw [Json.toOption_placing]
      exact Json.toOption_readAnything d follows
    | some f =>
      dsimp only
      split
      · rfl
      · rw [Json.toOption_placing]
        exact toOption_readAfterKey_readField d f follows

/-- The values that stand under a name, in their order. -/
def valuesOf (name : List Char) (ms : List Member) : List (List Char) :=
  (ms.filter (·.key = name)).map (·.value)

/-- Only keys and values come in, not how the members are written. -/
theorem valuesOf_eq (name : List Char) (ms : List Member) :
    valuesOf name ms =
      ((ms.map fun m => (m.key, m.value)).filter (·.1 = name)).map (·.2) := by
  rw [valuesOf, List.filter_map, List.map_map]
  rfl

theorem valuesOf_cons_self {name : List Char} {m : Member} (named : m.key = name)
    (ms : List Member) : valuesOf name (m :: ms) = m.value :: valuesOf name ms := by
  simp [valuesOf, named]

theorem valuesOf_cons_of_ne {name : List Char} {m : Member} (other : m.key ≠ name)
    (ms : List Member) : valuesOf name (m :: ms) = valuesOf name ms := by
  simp [valuesOf, other]

/-- What is held for a field after some members, given what was held before: the same, if no
member has its name, or what the one member that has it means. -/
def Gathers (ms : List Member) (f : Field) (before after : Option f.Content) : Prop :=
  valuesOf f.name.toList ms = [] ∧ after = before ∨
    ∃ v x, valuesOf f.name.toList ms = [v] ∧ readWhole f.read v = .ok x ∧ before = none ∧
      after = some x

theorem gathers_nil {f : Field} {before after : Option f.Content} :
    Gathers [] f before after ↔ after = before := by
  simp [Gathers, valuesOf]

theorem gathers_cons_of_ne {f : Field} {m : Member} {ms : List Member}
    {before after : Option f.Content} (other : m.key ≠ f.name.toList) :
    Gathers (m :: ms) f before after ↔ Gathers ms f before after := by
  unfold Gathers
  rw [valuesOf_cons_of_ne other]

theorem gathers_cons_self {f : Field} {m : Member} {ms : List Member}
    {before after : Option f.Content} (named : m.key = f.name.toList) :
    Gathers (m :: ms) f before after ↔
      before = none ∧ ∃ x, readWhole f.read m.value = .ok x ∧ Gathers ms f (some x) after := by
  unfold Gathers
  rw [valuesOf_cons_self named]
  constructor
  · rintro (⟨absurd_, _⟩ | ⟨v, x, one, decoded, absent, held⟩)
    · cases absurd_
    · obtain ⟨same, none⟩ := List.cons.inj one
      rw [← same] at decoded
      exact ⟨absent, x, decoded, .inl ⟨none, held⟩⟩
  · rintro ⟨absent, x, decoded, ⟨none, held⟩ | ⟨_, _, _, _, impossible, _⟩⟩
    · exact .inr ⟨m.value, x, by rw [none], decoded, absent, held⟩
    · cases impossible

theorem step_eq_some {d d' : Draft} {key v : List Char} {f : Field} (named : key = f.name.toList) :
    step d key v = some d' ↔
      d.get f = none ∧ ∃ x, readWhole f.read v = .ok x ∧ d' = d.set f x := by
  unfold step
  rw [Field.ofName?_eq_some.2 named]
  dsimp only
  rw [Draft.has_eq]
  cases d.get f with
  | some x => simp
  | none =>
    simp only [Option.isSome_none, Bool.false_eq_true, if_false, Option.map_eq_some_iff,
      Json.toOption_eq_some, true_and]
    exact ⟨fun ⟨x, decoded, set⟩ => ⟨x, decoded, set.symm⟩,
      fun ⟨x, decoded, set⟩ => ⟨x, decoded, set.symm⟩⟩

theorem step_of_unknown {key : List Char} (unknown : Field.ofName? key = none) (d : Draft)
    (v : List Char) : step d key v = some d := by
  unfold step
  rw [unknown]

/-- **Each field is gathered on its own.** -/
theorem foldMembers_eq_some {ms : List Member} {d d' : Draft} :
    foldMembers step d ms = some d' ↔ ∀ f, Gathers ms f (d.get f) (d'.get f) := by
  induction ms generalizing d with
  | nil =>
    simp only [gathers_nil]
    constructor
    · rintro same f
      rw [Option.some.inj same]
    · intro same
      exact congrArg some (Draft.ext_get same).symm
  | cons m ms ih =>
    rw [Json.foldMembers_cons]
    cases found : Field.ofName? m.key with
    | none =>
      -- The member is nobody's business, so no field sees it.
      have other (f : Field) : m.key ≠ f.name.toList := by
        intro named
        rw [Field.ofName?_eq_some.2 named] at found
        cases found
      rw [step_of_unknown found]
      simp only [gathers_cons_of_ne (other _)]
      exact ih
    | some f =>
      -- The member is the business of one field; for it the step decides, the others go on.
      have named := Field.ofName?_eq_some.1 found
      have other {g : Field} (ne : g ≠ f) : m.key ≠ g.name.toList := by
        intro named
        rw [Field.ofName?_eq_some.2 named] at found
        exact ne (Option.some.inj found)
      rw [Option.bind_eq_some_iff]
      constructor
      · rintro ⟨d₁, stepped, folded⟩ g
        obtain ⟨absent, x, decoded, rfl⟩ := (step_eq_some named).1 stepped
        have gathered := ih.1 folded g
        by_cases same : g = f
        · subst same
          rw [Draft.get_set_self] at gathered
          exact (gathers_cons_self named).2 ⟨absent, x, decoded, gathered⟩
        · rw [Draft.get_set_of_ne d x same] at gathered
          exact (gathers_cons_of_ne (other same)).2 gathered
      · intro gathered
        obtain ⟨absent, x, decoded, later⟩ := (gathers_cons_self named).1 (gathered f)
        refine ⟨d.set f x, (step_eq_some named).2 ⟨absent, x, decoded, rfl⟩, ih.2 fun g => ?_⟩
        by_cases same : g = f
        · subst same
          rw [Draft.get_set_self]
          exact later
        · rw [Draft.get_set_of_ne d x same]
          exact (gathers_cons_of_ne (other same)).1 (gathered g)

/-! ## Summaries by their contents -/

/-- What a summary holds for a field. -/
def content (s : Summary) : (f : Field) → f.Content
  | .status => s.status
  | .code => s.code.toInt
  | .failure => s.failure.map (·.toList)
  | .spawned => (s.spawned.toNat : Int)
  | .joined => (s.joined.toNat : Int)
  | .elapsed => s.elapsed

/-- The summary with the given contents. -/
def ofContents (x : (f : Field) → f.Content) : Summary where
  status := x .status
  code := Int32.ofInt (x .code)
  failure := Option.map String.ofList (x .failure)
  spawned := UInt64.ofNat (Int.toNat (x .spawned))
  joined := UInt64.ofNat (Int.toNat (x .joined))
  elapsed := x .elapsed

/-- Whether a content has a place in a summary. -/
def Field.Valid : (f : Field) → f.Content → Prop
  | .code, (n : Int) => Json.int32Range.low ≤ n ∧ n ≤ Json.int32Range.high
  | .spawned, (n : Int) | .joined, (n : Int) =>
    Json.uint64Range.low ≤ n ∧ n ≤ Json.uint64Range.high
  | .status, _ | .failure, _ | .elapsed, _ => True

theorem Field.Means.valid {f : Field} {v : List Char} {x : f.Content} (means : f.Means v x) :
    f.Valid x := by
  cases f with
  | code => exact means.2
  | spawned => exact means.2
  | joined => exact means.2
  | status => trivial
  | failure => trivial
  | elapsed => trivial

theorem ofContents_content (s : Summary) : ofContents s.content = s := by
  obtain ⟨status, code, failure, spawned, joined, elapsed⟩ := s
  cases failure <;> simp [ofContents, content]

private theorem toNat_ofNat_toNat {n : Int}
    (valid : Json.uint64Range.low ≤ n ∧ n ≤ Json.uint64Range.high) :
    ((UInt64.ofNat n.toNat).toNat : Int) = n := by
  obtain ⟨low, high⟩ : 0 ≤ n ∧ n ≤ 0xFFFF_FFFF_FFFF_FFFF := valid
  have small : n.toNat < 2 ^ 64 := by omega
  rw [UInt64.toNat_ofNat_of_lt' small]
  omega

private theorem toInt_ofInt {n : Int}
    (valid : Json.int32Range.low ≤ n ∧ n ≤ Json.int32Range.high) : (Int32.ofInt n).toInt = n := by
  obtain ⟨low, high⟩ : -0x8000_0000 ≤ n ∧ n ≤ 0x7FFF_FFFF := valid
  exact Int32.toInt_ofInt_of_le low (by omega)

/-- Contents that have a place are kept as they are. -/
theorem content_ofContents {x : (f : Field) → f.Content} (valid : ∀ f : Field, f.Valid (x f))
    (f : Field) : (ofContents x).content f = x f := by
  cases f with
  | status => rfl
  | code => exact toInt_ofInt (valid .code)
  | failure =>
    show Option.map _ (Option.map String.ofList (x .failure)) = _
    cases x .failure <;> simp
  | spawned => exact toNat_ofNat_toNat (valid .spawned)
  | joined => exact toNat_ofNat_toNat (valid .joined)
  | elapsed => rfl

private theorem or_some_eq {α : Type} {o : Option α} {a b : α} :
    o.or (some a) = some b ↔ o.getD a = b := by
  cases o <;> simp

/-- A draft is finished exactly if each field was read or may be absent. -/
theorem Draft.finish_eq_ok {d : Draft} {s : Summary} :
    d.finish = .ok s ↔
      ∃ x : (f : Field) → f.Content, (∀ f, (d.get f).or f.absent? = some (x f)) ∧
        s = ofContents x := by
  obtain ⟨status, code, failure, spawned, joined, elapsed⟩ := d
  constructor
  · intro finished
    unfold finish at finished
    split at finished
    case h_5 st c sp j isStatus isCode isSpawned isJoined =>
      cases isStatus
      cases isCode
      cases isSpawned
      cases isJoined
      let x : (f : Field) → f.Content
        | .status => st
        | .code => c
        | .failure => failure.getD none
        | .spawned => sp
        | .joined => j
        | .elapsed => elapsed.getD none
      refine ⟨x, fun f => ?_, (Except.ok.inj finished).symm⟩
      cases f with
      | status => rfl
      | code => rfl
      | spawned => rfl
      | joined => rfl
      | failure => exact or_some_eq.2 rfl
      | elapsed => exact or_some_eq.2 rfl
    all_goals cases finished
  · rintro ⟨x, held, rfl⟩
    have isStatus : status = some (x .status) := Option.or_none.symm.trans (held .status)
    have isCode : code = some (x .code) := Option.or_none.symm.trans (held .code)
    have isSpawned : spawned = some (x .spawned) := Option.or_none.symm.trans (held .spawned)
    have isJoined : joined = some (x .joined) := Option.or_none.symm.trans (held .joined)
    have isFailure : failure.getD none = x .failure := or_some_eq.1 (held .failure)
    have isElapsed : elapsed.getD none = x .elapsed := or_some_eq.1 (held .elapsed)
    simp only [finish, isStatus, isCode, isSpawned, isJoined, isFailure, isElapsed, ofContents]

/-! ## Whole objects -/

/-- **What an object says about a field**: the content of the one member that has its name, or
what the field holds when it is absent. -/
def Gives (ms : List Member) (f : Field) (x : f.Content) : Prop :=
  valuesOf f.name.toList ms = [] ∧ f.absent? = some x ∨
    ∃ v, valuesOf f.name.toList ms = [v] ∧ readWhole f.read v = .ok x

theorem Gives.valid {ms : List Member} {f : Field} {x : f.Content} (gives : Gives ms f x) :
    f.Valid x := by
  rcases gives with ⟨_, absent⟩ | ⟨v, one, decoded⟩
  · cases f with
    | failure => trivial
    | elapsed => trivial
    | status => trivial
    | code => cases absent
    | spawned => cases absent
    | joined => cases absent
  · obtain ⟨m, _, rfl⟩ := List.mem_map.1 (show v ∈ valuesOf f.name.toList ms by simp [one])
    exact ((f.recognizes.readWhole_value m.isValue).1 decoded).valid

theorem toOption_conclude (d : Draft) (rest : List Char) :
    (conclude d rest).toOption = d.finish.toOption.map (·, rest) := by
  unfold conclude
  cases d.finish <;> rfl

/-- Reading an object is folding over its members and finishing the draft. -/
theorem toOption_parse_object (lead trail : Gap) (o : ObjectText) :
    (parse (lead.1 ++ o.text ++ trail.1)).toOption =
      (foldMembers step {} o.members).bind fun d => d.finish.toOption := by
  refine Json.toOption_readWhole trail.2 ?_
  have shape : lead.1 ++ o.text ++ trail.1 = lead.1 ++
      '\x7b' :: (o.blank.1 ++ (Json.insideText o.members ++ '\x7d' :: trail.1)) := by
    simp [ObjectText.text]
  rw [shape, read, Json.readBracketed_object _ _ _ lead.2]
  exact Json.toOption_leave_readAllMembers stepwise toOption_conclude o {} trail.1

/-- The draft that holds the given contents. -/
def Draft.ofContents (held : (f : Field) → Option f.Content) : Draft where
  status := held .status
  code := held .code
  failure := held .failure
  spawned := held .spawned
  joined := held .joined
  elapsed := held .elapsed

theorem Draft.get_ofContents (held : (f : Field) → Option f.Content) (f : Field) :
    (Draft.ofContents held).get f = held f := by
  cases f <;> rfl

/-- **An object is read as a summary exactly if it gives each field what the summary holds.** -/
theorem parse_object_iff (lead trail : Gap) (o : ObjectText) (s : Summary) :
    parse (lead.1 ++ o.text ++ trail.1) = .ok s ↔ ∀ f, Gives o.members f (s.content f) := by
  rw [← Json.toOption_eq_some, toOption_parse_object, Option.bind_eq_some_iff]
  simp only [Json.toOption_eq_some, Draft.finish_eq_ok, foldMembers_eq_some, Draft.get_empty]
  constructor
  · rintro ⟨d, gathered, x, held, rfl⟩
    have gives (f : Field) : Gives o.members f (x f) := by
      have held := held f
      rcases gathered f with ⟨none, absent⟩ | ⟨v, y, one, decoded, _, present⟩
      · rw [absent] at held
        exact .inl ⟨none, held⟩
      · rw [present] at held
        rw [← Option.some.inj held]
        exact .inr ⟨v, one, decoded⟩
    intro f
    rw [content_ofContents fun f => (gives f).valid]
    exact gives f
  · -- The draft to be reached is known: it holds what the summary holds, where a member says it.
    intro gives
    let held (f : Field) : Option f.Content :=
      if valuesOf f.name.toList o.members = [] then none else some (s.content f)
    refine ⟨Draft.ofContents held, fun f => ?_, s.content, fun f => ?_, (ofContents_content s).symm⟩
    · rw [Draft.get_ofContents]
      rcases gives f with ⟨none, _⟩ | ⟨v, one, decoded⟩
      · exact .inl ⟨none, by simp [held, none]⟩
      · exact .inr ⟨v, s.content f, one, decoded, rfl, by simp [held, one]⟩
    · rw [Draft.get_ofContents]
      rcases gives f with ⟨none, absent⟩ | ⟨v, one, _⟩
      · simpa [held, none] using absent
      · simp [held, one]

end Duet.Summary
