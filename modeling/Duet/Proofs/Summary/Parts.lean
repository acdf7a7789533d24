import Duet.Proofs.Json.Objects
import Duet.Summary.Reader

/-!
# What a status and a duration are read from

A status is a string with its name, or an object whose one member has that name and the value
`null`. A duration is a list of two whole numbers, or an object that has them as its members, in
either order and each once.

**Both are read from exactly these values** (`Status.recognizes`, `Duration.recognizes`). An object
of a duration is taken apart into its members first, and what its reader made of them is the fold
over them.

What this does not establish: how they are found inside a summary.
-/

namespace Duet

open Json (Blanks EndsBefore Gap IsValue Member ObjectText Reader Recognizes Spells TextMeans)

namespace Status

theorem find?_name (s : Status) : all.find? (·.name.toList = s.name.toList) = some s := by
  cases s <;> decide

theorem named_eq_ok {cs rest r : List Char} {s : Status} :
    named cs rest = .ok (s, r) ↔ cs = s.name.toList ∧ r = rest := by
  unfold named
  constructor
  · intro found
    split at found
    · next status first =>
      cases found
      have same := List.find?_some first
      exact ⟨(by simpa using same : s.name.toList = cs).symm, rfl⟩
    · cases found
  · rintro ⟨rfl, rfl⟩
    rw [find?_name]

/-- What a status is read from. -/
def Means (w : List Char) (s : Status) : Prop :=
  TextMeans w s.name.toList ∨
    ∃ (b : Gap) (m : Member), w = (ObjectText.mk b [m]).text ∧ m.key = s.name.toList ∧
      m.value = "null".toList

theorem readObject_sound {text rest : List Char} {s : Status}
    (taken : readObject text = .ok (s, rest)) :
    ∃ (b : Gap) (m : Member), text = b.1 ++ m.text ++ '\x7d' :: rest ∧ m.key = s.name.toList ∧
      m.value = "null".toList := by
  unfold readObject at taken
  obtain ⟨⟨found, after⟩, keyed, afterKey⟩ := Json.bind_eq_ok.1 taken
  rcases Json.readKey_cases keyed with ⟨b, more, rfl, _⟩ |
    ⟨b, k, key, rfl, _, spells, rfl⟩ | ⟨_, _, _, _, _, later, _⟩
  · cases afterKey
  · obtain ⟨⟨status, after₁⟩, known, afterName⟩ := Json.bind_eq_ok.1 afterKey
    obtain ⟨rfl, rfl⟩ := named_eq_ok.1 known
    obtain ⟨after₂, colon, afterColon⟩ := Json.bind_eq_ok.1 afterName
    obtain ⟨b₁, rfl⟩ := Json.readColon_sound colon
    obtain ⟨⟨_, after₃⟩, null, afterNull⟩ := Json.bind_eq_ok.1 afterColon
    obtain ⟨b₂, w, rfl, blanks₂, rfl, _⟩ := Json.readNull_recognizes.sound null
    dsimp only at afterNull
    split at afterNull
    · cases afterNull
    · next d more head =>
      -- The key, the colon, the word and the end each stand where the one before left the text.
      obtain ⟨b₃, rfl⟩ := Json.exists_gap head
      split at afterNull
      · next isEnd =>
        cases afterNull
        refine ⟨b, ⟨s.name.toList, "null".toList, k, spells, .null, ⟨[], .nil⟩, b₁,
          ⟨b₂, blanks₂⟩, b₃⟩, ?_, rfl, rfl⟩
        simp [Member.text, isEnd]
      · cases afterNull
  · cases later

theorem readObject_append {m : Member} {s : Status} (key : m.key = s.name.toList)
    (value : m.value = "null".toList) (b : Gap) (rest : List Char) :
    readObject (b.1 ++ m.text ++ '\x7d' :: rest) = .ok (s, rest) := by
  unfold readObject
  have keyed := Json.readKey_first m.spells ⟨_, b.2.append m.before.2⟩
    (m.afterKey ('\x7d' :: rest))
  have known : named m.key (m.afterKey ('\x7d' :: rest)) = .ok (s, m.afterKey ('\x7d' :: rest)) :=
    named_eq_ok.2 ⟨key, rfl⟩
  have detached : Json.Detached (m.after.1 ++ '\x7d' :: rest) :=
    .blanks m.after.2 (.cons rest (by decide))
  have colon : Json.readColon (m.afterKey ('\x7d' :: rest)) =
      .ok (m.lead.1 ++ (m.value ++ (m.after.1 ++ '\x7d' :: rest))) :=
    Json.readColon_append m.colon _
  have null := Json.readNull_recognizes.complete (a := ()) m.lead.2 value
    (detached.endsBefore m.value)
  have close : Json.skipBlank (m.after.1 ++ '\x7d' :: rest) = '\x7d' :: rest := by
    rw [m.after.2.skipBlank_cons (by decide)]
  rw [List.append_assoc] at null
  rw [List.append_assoc, m.text_append, ← List.append_assoc, keyed]
  show (named m.key (m.afterKey ('\x7d' :: rest)) >>= _) = _
  rw [known]
  show (Json.readColon (m.afterKey ('\x7d' :: rest)) >>= _) = _
  rw [colon]
  show (Json.readNull _ >>= _) = _
  rw [null]
  simp [bind, Except.bind, close]

/-- **A status is read from its name, or from an object that has it as its key.** -/
theorem recognizes : Recognizes read Means where
  isValue := by
    rintro w s (means | ⟨b, m, rfl, _⟩)
    · exact means.isValue
    · exact ObjectText.isValue _
  sound := by
    intro text rest s taken
    unfold read at taken
    split at taken
    · cases taken
    · next c more head =>
      obtain ⟨b, split⟩ := Json.exists_gap head
      split at taken
      · next isObject =>
        obtain ⟨b', m, rfl, key, value⟩ := readObject_sound taken
        refine ⟨b.1, (ObjectText.mk b' [m]).text, ?_, b.2, .inr ⟨b', m, rfl, key, value⟩,
          ObjectText.endsBefore _ rest⟩
        rw [split, isObject]
        simp [ObjectText.text, Json.insideText, Json.tailText]
      · split at taken
        · next isText =>
          obtain ⟨⟨cs, after⟩, literal, settled⟩ := Json.bind_eq_ok.1 taken
          obtain ⟨k, rfl, spells⟩ := Json.readString_eq_ok.1 literal
          obtain ⟨rfl, rfl⟩ := named_eq_ok.1 settled
          have means : TextMeans ('"' :: k ++ ['"']) s.name.toList := ⟨k, rfl, spells⟩
          refine ⟨b.1, '"' :: k ++ ['"'], ?_, b.2, .inl means, means.endsBefore _⟩
          rw [split, isText]
          simp
        · cases taken
  complete := by
    rintro b w rest s blanks (means | ⟨b', m, rfl, key, value⟩) ends
    · have isValue := means.isValue
      obtain ⟨k, rfl, spells⟩ := means
      unfold read
      rw [isValue.skipBlank_append blanks]
      have literal := Json.readString_append spells rest
      simp [literal, bind, Except.bind, named_eq_ok]
    · unfold read
      rw [(ObjectText.isValue _).skipBlank_append blanks]
      have inner := readObject_append key value b' rest
      simpa [ObjectText.text, Json.insideText, Json.tailText] using inner

end Status

namespace Duration

open Json (readInteger readWhole uint32Range uint64Range foldMembers)

/-- What a member of the object form adds to the parts read before it. -/
def step (d : Draft) (key v : List Char) : Option Draft :=
  if key = "secs".toList then
    if d.secs.isSome then none
    else (readWhole (readInteger uint64Range) v).toOption.map fun n => { d with secs := some n }
  else if key = "nanos".toList then
    if d.nanos.isSome then none
    else (readWhole (readInteger uint32Range) v).toOption.map fun n => { d with nanos := some n }
  else none

/-- The duration of parts that are all there. -/
def Draft.finish? (d : Draft) : Option Duration :=
  match d.secs, d.nanos with
  | some secs, some nanos => ofParts? secs.toNat nanos.toNat
  | _, _ => none

/-- What the list form is read from. -/
inductive ListMeans : List Char → Duration → Prop where
  | intro (a b c e : Gap) {s n : List Char} {secs nanos : Int} {d : Duration}
    (isSecs : uint64Range.Means s secs) (isNanos : uint32Range.Means n nanos)
    (fits : ofParts? secs.toNat nanos.toNat = some d) :
    ListMeans ('[' :: a.1 ++ s ++ b.1 ++ ',' :: c.1 ++ n ++ e.1 ++ [']']) d

/-- What the object form is read from. -/
def ObjectMeans (w : List Char) (d : Duration) : Prop :=
  ∃ o : ObjectText, w = o.text ∧ (foldMembers step {} o.members).bind Draft.finish? = some d

/-- What a duration is read from. -/
def Means (w : List Char) (d : Duration) : Prop :=
  ListMeans w d ∨ ObjectMeans w d

theorem recognizes_secs : Recognizes (readInteger uint64Range) uint64Range.Means :=
  Json.readInteger_recognizes Json.uint64Range_exact

theorem recognizes_nanos : Recognizes (readInteger uint32Range) uint32Range.Means :=
  Json.readInteger_recognizes Json.uint32Range_exact

theorem toOption_ofDraft (secs nanos : Int) (rest : List Char) :
    (ofDraft secs nanos rest).toOption = (ofParts? secs.toNat nanos.toNat).map (·, rest) := by
  unfold ofDraft
  cases ofParts? secs.toNat nanos.toNat <;> rfl

/-! ## The object form -/

theorem toOption_readPart {range : Json.IntRange} (fits : range.Exact) (name : String)
    (before : Option Int) {text v rest : List Char} (follows : Json.FollowsKey text v rest) :
    (readPart name range before text).toOption =
      if before.isSome then none
      else (readWhole (readInteger range) v).toOption.map (·, rest) := by
  unfold readPart
  split
  · rfl
  · rw [Json.toOption_placing]
    exact Json.toOption_readAfterKey (Json.readInteger_recognizes fits) follows

theorem stepwise : Json.Stepwise readMember step where
  toOption_member := by
    intro d key text v rest follows
    have secs := toOption_readPart Json.uint64Range_exact "secs" d.secs follows
    have nanos := toOption_readPart Json.uint32Range_exact "nanos" d.nanos follows
    unfold readMember step
    split
    · rw [Json.toOption_bind, secs]
      split
      · rfl
      · cases (readWhole (readInteger uint64Range) v).toOption <;> rfl
    · split
      · rw [Json.toOption_bind, nanos]
        split
        · rfl
        · cases (readWhole (readInteger uint32Range) v).toOption <;> rfl
      · rfl

theorem readPart_sound {range : Json.IntRange} (fits : range.Exact) {name : String}
    {before : Option Int} {text rest : List Char} {n : Int}
    (taken : readPart name range before text = .ok (n, rest)) :
    ∃ v, Json.FollowsKey text v rest := by
  unfold readPart at taken
  split at taken
  · cases taken
  · exact Json.readAfterKey_sound (Json.readInteger_recognizes fits) (Json.placing_eq_ok.1 taken)

theorem readMember_sound {d d' : Draft} {key text rest : List Char}
    (taken : readMember d key text = .ok (d', rest)) : ∃ v, Json.FollowsKey text v rest := by
  unfold readMember at taken
  split at taken
  · obtain ⟨⟨n, after⟩, part, settled⟩ := Json.bind_eq_ok.1 taken
    cases settled
    exact readPart_sound Json.uint64Range_exact part
  · split at taken
    · obtain ⟨⟨n, after⟩, part, settled⟩ := Json.bind_eq_ok.1 taken
      cases settled
      exact readPart_sound Json.uint32Range_exact part
    · cases taken

theorem toOption_conclude (d : Draft) (rest : List Char) :
    (conclude d rest).toOption = d.finish?.map (·, rest) := by
  obtain ⟨secs, nanos⟩ := d
  cases secs with
  | none => rfl
  | some secs =>
    cases nanos with
    | none => rfl
    | some nanos => exact toOption_ofDraft secs nanos rest

theorem toOption_leave_readObject (o : ObjectText) (rest : List Char) :
    (Json.leave Json.endObject
        (readObject (o.blank.1 ++ (Json.insideText o.members ++ '\x7d' :: rest)))).toOption =
      ((foldMembers step {} o.members).bind Draft.finish?).map (·, rest) := by
  exact Json.toOption_leave_readAllMembers stepwise toOption_conclude o {} rest

theorem readObject_sound {text rest : List Char} {d : Duration}
    (taken : Json.leave Json.endObject (readObject text) = .ok (d, rest)) :
    ∃ o : ObjectText, text = o.blank.1 ++ (Json.insideText o.members ++ '\x7d' :: rest) ∧
      (foldMembers step {} o.members).bind Draft.finish? = some d := by
  obtain ⟨after, inside, closed⟩ := Json.leave_eq_ok.1 taken
  obtain ⟨⟨draft, after'⟩, members, finished⟩ := Json.bind_eq_ok.1 inside
  obtain ⟨b, ms, more, rfl, shape, folded⟩ :=
    Json.readMembers_sound stepwise readMember_sound members
  have concluded := toOption_conclude draft ('\x7d' :: more)
  rw [show conclude draft ('\x7d' :: more) = .ok (d, after) from finished] at concluded
  obtain ⟨d', ends, same⟩ := Option.map_eq_some_iff.1 concluded.symm
  cases same
  rw [Json.endObject_close] at closed
  cases closed
  exact ⟨⟨b, ms⟩, shape, by rw [folded]; exact ends⟩

/-! ## The list form -/

theorem ListMeans.isValue {w : List Char} {d : Duration} (means : ListMeans w d) : IsValue w := by
  obtain ⟨a, b, c, e, isSecs, isNanos, _⟩ := means
  have first := Json.Derives.element a.2 (recognizes_secs.isValue isSecs) b.2
  have second := Json.Derives.element c.2 (recognizes_nanos.isValue isNanos) e.2
  have derived := Json.Derives.bracket (.more first (.one second))
  simpa [Json.Bracket.opener, Json.Bracket.closer] using derived

theorem ListMeans.endsBefore {w : List Char} {d : Duration} (means : ListMeans w d)
    (rest : List Char) : EndsBefore w rest := by
  obtain ⟨a, b, c, e, _, _, _⟩ := means
  exact Json.endsBefore_of_head (by decide) (by decide) _ _

theorem readList_sound {text rest : List Char} {d : Duration}
    (taken : Json.leave Json.endList (readList text) = .ok (d, rest)) :
    ∃ w, '[' :: text = w ++ rest ∧ ListMeans w d := by
  obtain ⟨after, inside, closed⟩ := Json.leave_eq_ok.1 taken
  obtain ⟨⟨secs, after₁⟩, first, afterFirst⟩ := Json.bind_eq_ok.1 inside
  obtain ⟨⟨nanos, after₂⟩, second, settled⟩ := Json.bind_eq_ok.1 afterFirst
  obtain ⟨a, a', s, shape, isSecs, _⟩ := Json.readElement_sound recognizes_secs first
  obtain ⟨b, c, n, shape', isNanos, _⟩ := Json.readElement_sound recognizes_nanos second
  have concluded := toOption_ofDraft secs nanos after₂
  rw [show ofDraft secs nanos after₂ = .ok (d, after) from settled] at concluded
  obtain ⟨d', fits, same⟩ := Option.map_eq_some_iff.1 concluded.symm
  cases same
  obtain ⟨e, shape''⟩ := Json.endList_eq_none.1 closed
  refine ⟨_, ?_, .intro ⟨_, a.2.append a'.2⟩ b c e isSecs isNanos fits⟩
  rw [shape, shape', shape'']
  simp [Json.separator]

theorem readList_append (a b c e : Gap) {s n : List Char} {secs nanos : Int} {d : Duration}
    (isSecs : uint64Range.Means s secs) (isNanos : uint32Range.Means n nanos)
    (fits : ofParts? secs.toNat nanos.toNat = some d) (rest : List Char) :
    Json.leave Json.endList
      (readList (a.1 ++ (s ++ (b.1 ++ ',' :: (c.1 ++ (n ++ (e.1 ++ ']' :: rest))))))) =
        .ok (d, rest) := by
  have close : Json.Detached (e.1 ++ ']' :: rest) := .blanks e.2 (.cons rest (by decide))
  have comma : Json.Detached (b.1 ++ ',' :: (c.1 ++ (n ++ (e.1 ++ ']' :: rest)))) :=
    .blanks b.2 (Json.detached_comma _)
  have first := Json.readElement_append 0 expected a ⟨[], .nil⟩ (recognizes_secs.isValue isSecs)
    (recognizes_secs.complete .nil isSecs (comma.endsBefore s))
  have second := Json.readElement_append 1 expected b c (recognizes_nanos.isValue isNanos)
    (recognizes_nanos.complete .nil isNanos (close.endsBefore n))
  have concluded := toOption_ofDraft secs nanos (e.1 ++ ']' :: rest)
  rw [fits] at concluded
  refine Json.leave_eq_ok.2 ⟨e.1 ++ ']' :: rest, ?_, Json.endList_eq_none.2 ⟨e, rfl⟩⟩
  refine Json.bind_eq_ok.2 ⟨_, by simpa [Json.separator] using first, ?_⟩
  refine Json.bind_eq_ok.2 ⟨_, by simpa [Json.separator] using second, ?_⟩
  exact Json.toOption_eq_some.1 concluded

/-- **A duration is read from a list or from an object of its two parts.** -/
theorem recognizes : Recognizes read Means where
  isValue := by
    rintro w d (means | ⟨o, rfl, _⟩)
    · exact means.isValue
    · exact o.isValue
  sound := by
    intro text rest d taken
    obtain ⟨b, inside, ⟨rfl, left⟩ | ⟨rfl, left⟩⟩ := Json.readBracketed_cases taken
    · obtain ⟨w, shape, means⟩ := readList_sound left
      exact ⟨b.1, w, by rw [shape, List.append_assoc], b.2, .inl means, means.endsBefore rest⟩
    · obtain ⟨o, rfl, folded⟩ := readObject_sound left
      refine ⟨b.1, o.text, ?_, b.2, .inr ⟨o, rfl, folded⟩, o.endsBefore rest⟩
      simp [ObjectText.text]
  complete := by
    rintro b w rest d blanks (means | ⟨o, rfl, folded⟩) ends
    · obtain ⟨a, b', c, e, isSecs, isNanos, fits⟩ := means
      have inner := readList_append a b' c e isSecs isNanos fits rest
      rw [← Json.readBracketed_list expected readList readObject blanks] at inner
      simpa [read] using inner
    · have inner := toOption_leave_readObject o rest
      rw [folded] at inner
      rw [← Json.readBracketed_object expected readList readObject blanks] at inner
      have inner := Json.toOption_eq_some.1 inner
      simpa [read, ObjectText.text] using inner

end Duration

end Duet
