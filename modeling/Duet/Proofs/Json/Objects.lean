import Duet.Proofs.Json.Brackets

/-!
# Members of objects

An object is written as members between brackets, each with a key spelled in one of many ways and
with blanks wherever they may stand. `Member` is a member as it is written; its text and the text
of an object are made of such members, and nothing that is no member can be built.

**Reading an object is folding over its members** (`toOption_readAllMembers`), if what is read for
a member depends on its key and its value alone. How keys are spelled and where blanks stand has
then no influence, and the bound on the number of members is never reached.

What this does not establish: what a reader makes of one member. That is the step, and each reader
brings its own.
-/

namespace Duet.Json

/-! ## Members and objects as they are written -/

/-- A member of an object as it is written. -/
structure Member where
  key : List Char
  value : List Char
  spelling : List Char
  spells : Spells spelling key
  isValue : IsValue value
  /-- The blanks before the key, before and after the colon, and after the value. -/
  before : Gap
  colon : Gap
  lead : Gap
  after : Gap

namespace Member

/-- The text of a member. -/
def text (m : Member) : List Char :=
  m.before.1 ++ '"' :: m.spelling ++ '"' :: m.colon.1 ++ ':' :: m.lead.1 ++ m.value ++ m.after.1

/-- What stands after the key of a member that is followed by a rest. -/
def afterKey (m : Member) (rest : List Char) : List Char :=
  m.colon.1 ++ ':' :: (m.lead.1 ++ (m.value ++ (m.after.1 ++ rest)))

theorem text_append (m : Member) (rest : List Char) :
    m.text ++ rest = m.before.1 ++ '"' :: (m.spelling ++ '"' :: m.afterKey rest) := by
  simp [text, afterKey]

theorem entry (m : Member) (b : Gap) : Derives (.entry .object) (b.1 ++ m.text) := by
  have derived := Derives.member (b.2.append m.before.2) m.spells.literal m.colon.2 m.lead.2
    m.isValue m.after.2
  have same : b.1 ++ m.before.1 ++ '"' :: m.spelling ++ '"' :: m.colon.1 ++ ':' :: m.lead.1 ++
      m.value ++ m.after.1 = b.1 ++ m.text := by
    simp [text]
  rwa [same] at derived

end Member

/-- The text of further members, each after a comma. -/
def tailText (ms : List Member) : List Char :=
  ms.flatMap fun m => ',' :: m.text

/-- The text of all members of an object. -/
def insideText : List Member → List Char
  | [] => []
  | m :: ms => m.text ++ tailText ms

/-- An object as it is written. -/
structure ObjectText where
  blank : Gap
  members : List Member

/-- The text of an object. -/
def ObjectText.text (o : ObjectText) : List Char :=
  '\x7b' :: o.blank.1 ++ insideText o.members ++ ['\x7d']

theorem tailText_cons (m : Member) (ms : List Member) :
    tailText (m :: ms) = ',' :: (m.text ++ tailText ms) := by
  simp [tailText]

theorem entries_tailText {w : List Char} (first : Derives (.entry .object) w) (ms : List Member) :
    Derives (.entries .object) (w ++ tailText ms) := by
  induction ms generalizing w with
  | nil =>
    rw [show tailText [] = [] from rfl, List.append_nil]
    exact .one first
  | cons m ms ih =>
    rw [tailText_cons]
    exact .more first (ih (m.entry ⟨[], .nil⟩))

/-- What is written as an object is a value. -/
theorem ObjectText.isValue (o : ObjectText) : IsValue o.text := by
  obtain ⟨blank, members⟩ := o
  cases members with
  | nil =>
    have derived := Derives.empty .object blank.2
    simpa [text, insideText, Bracket.opener, Bracket.closer] using derived
  | cons m ms =>
    have derived := Derives.bracket (entries_tailText (m.entry blank) ms)
    simpa [text, insideText, Bracket.opener, Bracket.closer] using derived

theorem ObjectText.endsBefore (o : ObjectText) (rest : List Char) : EndsBefore o.text rest :=
  endsBefore_of_head (by decide) (by decide) _ _

theorem detached_tailText (ms : List Member) (rest : List Char) :
    Detached (tailText ms ++ '\x7d' :: rest) := by
  cases ms with
  | nil => exact .cons rest (by decide)
  | cons m ms =>
    rw [tailText_cons]
    exact detached_comma _

theorem length_tailText (ms : List Member) : ms.length ≤ (tailText ms).length := by
  induction ms with
  | nil => exact Nat.le_refl 0
  | cons m ms ih =>
    rw [tailText_cons]
    simp only [List.length_cons, List.length_append]
    omega

/-! ## Keys -/

theorem readKey_close (first : Bool) (b : Gap) (rest : List Char) :
    readKey first (b.1 ++ '\x7d' :: rest) = .ok (none, '\x7d' :: rest) := by
  unfold readKey
  rw [b.2.skipBlank_cons (by decide)]
  simp

theorem readKey_first {k key : List Char} (spells : Spells k key) (b : Gap) (rest : List Char) :
    readKey true (b.1 ++ '"' :: (k ++ '"' :: rest)) = .ok (some key, rest) := by
  unfold readKey
  rw [b.2.skipBlank_cons (by decide)]
  simp [readString_append spells rest, bind, Except.bind]

theorem readKey_next {k key : List Char} (spells : Spells k key) (b c : Gap) (rest : List Char) :
    readKey false (b.1 ++ ',' :: (c.1 ++ '"' :: (k ++ '"' :: rest))) = .ok (some key, rest) := by
  unfold readKey
  rw [b.2.skipBlank_cons (by decide)]
  simp [skipBlank_append c.2, skipBlank_cons, isBlank, readString_append spells rest, bind,
    Except.bind]

/-- Everything that reading a key can do: it finds the end, the first key, or a later one. -/
theorem readKey_cases {first : Bool} {text rest : List Char} {found : Option (List Char)}
    (taken : readKey first text = .ok (found, rest)) :
    (∃ (b : Gap) (more : List Char), found = none ∧ text = b.1 ++ rest ∧ rest = '\x7d' :: more) ∨
    (∃ (b : Gap) (k key : List Char), found = some key ∧ first = true ∧ Spells k key ∧
      text = b.1 ++ '"' :: (k ++ '"' :: rest)) ∨
    (∃ (b c : Gap) (k key : List Char), found = some key ∧ first = false ∧ Spells k key ∧
      text = b.1 ++ ',' :: (c.1 ++ '"' :: (k ++ '"' :: rest))) := by
  have key {more : List Char}
      (read : (readString more >>= fun x => Except.ok (some x.1, x.2)) = .ok (found, rest)) :
      ∃ k key, found = some key ∧ Spells k key ∧ more = k ++ '"' :: rest := by
    obtain ⟨⟨cs, after⟩, literal, settled⟩ := bind_eq_ok.1 read
    cases settled
    obtain ⟨k, rfl, spells⟩ := readString_eq_ok.1 literal
    exact ⟨k, cs, rfl, spells, rfl⟩
  unfold readKey at taken
  dsimp only at taken
  split at taken
  · cases taken
  · next c more head =>
    obtain ⟨b, split⟩ := exists_gap head
    split at taken
    · next isEnd =>
      cases taken
      exact .inl ⟨b, more, rfl, split, by rw [isEnd]⟩
    · split at taken
      · next isComma =>
        obtain ⟨isComma, later⟩ := isComma
        split at taken
        · cases taken
        · next d after head' =>
          obtain ⟨b', split'⟩ := exists_gap head'
          split at taken
          · next isQuote =>
            obtain ⟨k, cs, found, spells, shape⟩ := key taken
            refine .inr (.inr ⟨b, b', k, cs, found, by simpa using later, spells, ?_⟩)
            rw [split, isComma, split', isQuote, shape]
          · split at taken <;> cases taken
      · split at taken
        · cases taken
        · next isFirst =>
          split at taken
          · next isQuote =>
            obtain ⟨k, cs, found, spells, shape⟩ := key taken
            refine .inr (.inl ⟨b, k, cs, found, by simpa using isFirst, spells, ?_⟩)
            rw [split, isQuote, shape]
          · cases taken

/-! ## What follows a key -/

theorem readColon_append (b : Gap) (rest : List Char) :
    readColon (b.1 ++ ':' :: rest) = .ok rest := by
  rw [readColon, b.2.skipBlank_cons (by decide)]
  simp

theorem readColon_sound {text rest : List Char} (taken : readColon text = .ok rest) :
    ∃ b : Gap, text = b.1 ++ ':' :: rest := by
  unfold readColon at taken
  split at taken
  · cases taken
  · next c more head =>
    split at taken
    · next isColon =>
      cases taken
      obtain ⟨b, split⟩ := exists_gap head
      exact ⟨b, by rw [split, isColon]⟩
    · cases taken

/-- What follows a key: a colon and a value, and the rest after them. -/
def FollowsKey (text value rest : List Char) : Prop :=
  IsValue value ∧ EndsBefore value rest ∧
    ∃ colon lead : Gap, text = colon.1 ++ ':' :: (lead.1 ++ (value ++ rest))

theorem Member.followsKey (m : Member) {rest : List Char} (detached : Detached rest) :
    FollowsKey (m.afterKey rest) m.value (m.after.1 ++ rest) :=
  ⟨m.isValue, (Detached.blanks m.after.2 detached).endsBefore _, m.colon, m.lead, rfl⟩

theorem toOption_readAfterKey {α : Type} {read : Reader α} {Means : List Char → α → Prop}
    (recognizes : Recognizes read Means) {text v rest : List Char}
    (follows : FollowsKey text v rest) :
    (readAfterKey read text).toOption = (readWhole read v).toOption.map (·, rest) := by
  obtain ⟨value, ends, colon, lead, rfl⟩ := follows
  rw [readAfterKey, readColon_append, ← recognizes.toOption_read lead.2 value ends,
    List.append_assoc]
  rfl

theorem readAfterKey_sound {α : Type} {read : Reader α} {Means : List Char → α → Prop}
    (recognizes : Recognizes read Means) {text rest : List Char} {a : α}
    (taken : readAfterKey read text = .ok (a, rest)) : ∃ v, FollowsKey text v rest := by
  obtain ⟨after, colon, read⟩ := bind_eq_ok.1 taken
  obtain ⟨b, rfl⟩ := readColon_sound colon
  obtain ⟨b', v, rfl, blanks, means, ends⟩ := recognizes.sound read
  exact ⟨v, recognizes.isValue means, ends, b, ⟨b', blanks⟩, by simp⟩

theorem readAfterKey_map {α β : Type} {read : Reader α} {read' : Reader β}
    {g : α × List Char → β × List Char} (maps : ∀ text, read' text = (read text).map g)
    (text : List Char) : readAfterKey read' text = (readAfterKey read text).map g := by
  unfold readAfterKey
  cases readColon text with
  | error e => rfl
  | ok after => exact maps after

theorem toOption_readAnything {α : Type} (a : α) {text v rest : List Char}
    (follows : FollowsKey text v rest) :
    (readAfterKey (readAnything a) text).toOption = some (a, rest) := by
  obtain ⟨value, ends, colon, lead, rfl⟩ := follows
  rw [readAfterKey, readColon_append]
  show (readAnything a (lead.1 ++ (v ++ rest))).toOption = _
  rw [readAnything, ← List.append_assoc, skipValue_append lead.2 value ends]
  rfl

/-! ## All members -/

section Members

variable {δ : Type} {member : δ → List Char → List Char → Inside δ}
  {step : δ → List Char → List Char → Option δ}

/-- What is read after a key is decided by the key and the value, and the rest is left. -/
structure Stepwise (member : δ → List Char → List Char → Inside δ)
    (step : δ → List Char → List Char → Option δ) : Prop where
  toOption_member (d : δ) (key : List Char) {text v rest : List Char}
    (follows : FollowsKey text v rest) :
    (member d key text).toOption = (step d key v).map (·, rest)

/-- The steps of all members, one after the other. -/
def foldMembers (step : δ → List Char → List Char → Option δ) (d : δ) (ms : List Member) :
    Option δ :=
  ms.foldlM (fun d m => step d m.key m.value) d

theorem foldMembers_cons (step : δ → List Char → List Char → Option δ) (d : δ) (m : Member)
    (ms : List Member) :
    foldMembers step d (m :: ms) = (step d m.key m.value).bind (foldMembers step · ms) := by
  rfl

/-- Only keys and values come in, not how the members are written. -/
theorem foldMembers_eq (step : δ → List Char → List Char → Option δ) (d : δ) (ms : List Member) :
    foldMembers step d ms =
      (ms.map fun m => (m.key, m.value)).foldlM (fun d part => step d part.1 part.2) d := by
  rw [foldMembers, List.foldlM_map]

/-- One round of reading members, after the key was found. -/
private theorem toOption_readMembers_key {count : Nat} {first : Bool} {d : δ}
    {text key rest : List Char}
    (found : readKey first text = .ok (some key, rest)) :
    (readMembers member (count + 1) first d text).toOption =
      (member d key rest).toOption.bind fun x =>
        (readMembers member count false x.1 x.2).toOption := by
  rw [readMembers, found]
  show (Except.bind (member d key rest) _).toOption = _
  cases member d key rest <;> rfl

private theorem readMembers_close {count : Nat} (first : Bool) (d : δ) (b : Gap)
    (rest : List Char) :
    readMembers member (count + 1) first d (b.1 ++ '\x7d' :: rest) = .ok (d, '\x7d' :: rest) := by
  rw [readMembers, readKey_close]
  rfl

/-- Reading on after some members. The induction is over the members that are left; the blanks
after a value are those in front of the comma that follows. -/
theorem toOption_readMembers (stepwise : Stepwise member step) (ms : List Member) {count : Nat}
    (many : ms.length < count) (d : δ) (b : Gap) (rest : List Char) :
    (readMembers member count false d (b.1 ++ (tailText ms ++ '\x7d' :: rest))).toOption =
      (foldMembers step d ms).map (·, '\x7d' :: rest) := by
  induction ms generalizing count d b with
  | nil =>
    obtain ⟨count, rfl⟩ := Nat.exists_eq_succ_of_ne_zero (Nat.ne_of_gt many)
    rw [show tailText [] = [] from rfl, List.nil_append, readMembers_close]
    rfl
  | cons m ms ih =>
    obtain ⟨count, rfl⟩ := Nat.exists_eq_succ_of_ne_zero (Nat.ne_of_gt (Nat.zero_lt_of_lt many))
    have found := readKey_next m.spells b m.before (m.afterKey (tailText ms ++ '\x7d' :: rest))
    have taken := stepwise.toOption_member d m.key (m.followsKey (detached_tailText ms rest))
    rw [tailText_cons, List.cons_append, List.append_assoc, m.text_append,
      toOption_readMembers_key found, taken, foldMembers_cons]
    cases step d m.key m.value with
    | none => rfl
    | some d' => exact ih (by simpa using many) d' m.after

/-- **Reading all members of an object is folding over them.** -/
theorem toOption_readAllMembers (stepwise : Stepwise member step) (o : ObjectText) (d : δ)
    (rest : List Char) :
    (readAllMembers member d (o.blank.1 ++ (insideText o.members ++ '\x7d' :: rest))).toOption =
      (foldMembers step d o.members).map (·, '\x7d' :: rest) := by
  obtain ⟨blank, members⟩ := o
  unfold readAllMembers
  cases members with
  | nil =>
    rw [show insideText [] = [] from rfl, List.nil_append, readMembers_close]
    rfl
  | cons m ms =>
    have shape : blank.1 ++ (insideText (m :: ms) ++ '\x7d' :: rest) = blank.1 ++ m.before.1 ++
        '"' :: (m.spelling ++ '"' :: m.afterKey (tailText ms ++ '\x7d' :: rest)) := by
      rw [insideText, List.append_assoc, m.text_append, List.append_assoc]
    have found := readKey_first m.spells ⟨_, blank.2.append m.before.2⟩
      (m.afterKey (tailText ms ++ '\x7d' :: rest))
    have taken := stepwise.toOption_member d m.key (m.followsKey (detached_tailText ms rest))
    rw [shape, toOption_readMembers_key found, taken, foldMembers_cons]
    cases step d m.key m.value with
    | none => rfl
    | some d' =>
      refine toOption_readMembers stepwise ms ?_ d' m.after rest
      have enough := length_tailText ms
      simp only [Member.afterKey, List.length_cons, List.length_append]
      omega

/-- The text of the members that are left, with or without a comma in front. -/
def leftText (first : Bool) (ms : List Member) : List Char :=
  if first then insideText ms else tailText ms

/-- What was read as members of an object is their text. The induction is over the bound; only the
first key comes without a comma. -/
theorem readMembers_sound (stepwise : Stepwise member step)
    (sound : ∀ {d d' : δ} {key text rest : List Char}, member d key text = .ok (d', rest) →
      ∃ v, FollowsKey text v rest)
    {count : Nat} {first : Bool} {d d' : δ} {text rest : List Char}
    (taken : readMembers member count first d text = .ok (d', rest)) :
    ∃ (b : Gap) (ms : List Member) (more : List Char), rest = '\x7d' :: more ∧
      text = b.1 ++ (leftText first ms ++ rest) ∧ foldMembers step d ms = some d' := by
  induction count generalizing first d text with
  | zero => cases taken
  | succ count ih =>
    rw [readMembers] at taken
    obtain ⟨⟨found, after⟩, keyed, taken⟩ := bind_eq_ok.1 taken
    -- A key was found after the given text; the members after it come from the induction.
    have continued {b c : Gap} {k key : List Char} (isKey : found = some key)
        (spells : Spells k key)
        (shape : text = b.1 ++ separator first ++ c.1 ++ '"' :: (k ++ '"' :: after)) :
        ∃ (b : Gap) (ms : List Member) (more : List Char), rest = '\x7d' :: more ∧
          text = b.1 ++ (leftText first ms ++ rest) ∧ foldMembers step d ms = some d' := by
      subst isKey
      obtain ⟨⟨d₁, after'⟩, read, taken⟩ := bind_eq_ok.1 taken
      obtain ⟨v, follows⟩ := sound read
      have stepped := stepwise.toOption_member d key follows
      obtain ⟨b', ms, more, close, shape', folded⟩ := ih taken
      obtain ⟨value, _, colon, lead, shape''⟩ := follows
      refine ⟨b, ⟨key, v, k, spells, value, c, colon, lead, b'⟩ :: ms, more, close, ?_, ?_⟩
      · rw [shape, shape'', shape']
        cases first <;> simp [separator, leftText, insideText, tailText_cons, Member.text]
      · rw [read] at stepped
        obtain ⟨d₂, stepped, same⟩ := Option.map_eq_some_iff.1 stepped.symm
        cases same
        rw [foldMembers_cons, stepped]
        exact folded
    rcases readKey_cases (placing_eq_ok.1 keyed) with ⟨b, more, isEnd, shape, close⟩ |
      ⟨b, k, key, isKey, isFirst, spells, shape⟩ | ⟨b, c, k, key, isKey, later, spells, shape⟩
    · subst isEnd
      cases taken
      refine ⟨b, [], more, close, ?_, rfl⟩
      cases first <;> exact shape
    · refine continued (b := b) (c := ⟨[], .nil⟩) isKey spells ?_
      rw [shape, isFirst]
      simp [separator]
    · refine continued (b := b) (c := c) isKey spells ?_
      rw [shape, later]
      simp [separator]

end Members

/-! ## Objects -/

/-- **An object is read as its members are**, one after the other, and then as a whole. -/
theorem toOption_leave_readAllMembers {α δ : Type} {member : δ → List Char → List Char → Inside δ}
    {step : δ → List Char → List Char → Option δ} (stepwise : Stepwise member step)
    {finish : δ → List Char → Inside α} {conclude : δ → Option α}
    (finishes : ∀ d rest, (finish d rest).toOption = (conclude d).map (·, rest))
    (o : ObjectText) (d : δ) (rest : List Char) :
    (leave endObject (Except.bind
        (readAllMembers member d (o.blank.1 ++ (insideText o.members ++ '\x7d' :: rest)))
        fun x => finish x.1 x.2)).toOption =
      ((foldMembers step d o.members).bind conclude).map (·, rest) := by
  exact toOption_leave_bind (toOption_readAllMembers stepwise o d rest) finishes
    (endObject_close rest)

end Duet.Json
