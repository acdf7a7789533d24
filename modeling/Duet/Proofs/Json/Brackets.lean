import Duet.Proofs.Json.Recognition

/-!
# Brackets and the elements of lists

A list or an object is entered at its bracket and left at its end; what goes wrong inside comes
before what is wrong with the end. Elements stand between blanks and after commas.

**A bracket that was left had its end** (`leave_eq_ok`, `endList_eq_none`), and an element that was
read stands where the one before it ended.

What this does not establish: how many elements a reader asks for.
-/

namespace Duet.Json

/-- A row of blanks. -/
abbrev Gap := { b : List Char // Blanks b }

/-- The blanks in front of a text. -/
theorem exists_gap {text rest : List Char} (head : skipBlank text = rest) :
    ∃ b : Gap, text = b.1 ++ rest := by
  obtain ⟨b, blanks, split⟩ := exists_blanks text
  exact ⟨⟨b, blanks⟩, by rw [← head]; exact split⟩

@[simp] theorem toOption_placing {α : Type} (read : Except Failure (α × List Char)) :
    (placing read).toOption = read.toOption := by
  cases read <;> rfl

theorem placing_eq_ok {α : Type} {read : Except Failure (α × List Char)} {x : α × List Char} :
    placing read = .ok x ↔ read = .ok x := by
  rw [← toOption_eq_some, toOption_placing, toOption_eq_some]

/-! ## Leaving a bracket -/

theorem leave_eq_ok {α : Type} {close : List Char → Option Failure × List Char}
    {inside : Inside α} {a : α} {rest : List Char} :
    leave close inside = .ok (a, rest) ↔
      ∃ after, inside = .ok (a, after) ∧ close after = (none, rest) := by
  unfold leave
  split
  · simp
  · simp
  · next a' after =>
    constructor
    · intro left
      split at left
      · cases left
      · next closed =>
        cases left
        exact ⟨after, rfl, closed⟩
    · rintro ⟨_, same, closed⟩
      cases same
      rw [closed]

theorem endObject_close (rest : List Char) : endObject ('\x7d' :: rest) = (none, rest) := by
  rw [endObject, skipBlank_cons (by decide)]
  simp

theorem endList_eq_none {text rest : List Char} :
    endList text = (none, rest) ↔ ∃ b : Gap, text = b.1 ++ ']' :: rest := by
  constructor
  · intro closed
    unfold endList at closed
    split at closed
    · cases closed
    · next c more head =>
      obtain ⟨b, split⟩ := exists_gap head
      split at closed
      · next isEnd =>
        cases closed
        exact ⟨b, by rw [split, isEnd]⟩
      · split at closed
        · dsimp only at closed
          split at closed <;> cases closed
        · cases closed
  · rintro ⟨b, rfl⟩
    rw [endList, b.2.skipBlank_cons (by decide)]
    simp

theorem readBracketed_list {α : Type} (expected : String) (list object : List Char → Inside α)
    {b : List Char} (blanks : Blanks b) (text : List Char) :
    readBracketed expected list object (b ++ '[' :: text) = leave endList (list text) := by
  rw [readBracketed, blanks.skipBlank_cons (by decide)]
  simp

theorem readBracketed_object {α : Type} (expected : String) (list object : List Char → Inside α)
    {b : List Char} (blanks : Blanks b) (text : List Char) :
    readBracketed expected list object (b ++ '\x7b' :: text) = leave endObject (object text) := by
  rw [readBracketed, blanks.skipBlank_cons (by decide)]
  simp

/-- A value in brackets that was read is a list or an object. -/
theorem readBracketed_cases {α : Type} {expected : String} {list object : List Char → Inside α}
    {text rest : List Char} {a : α}
    (taken : readBracketed expected list object text = .ok (a, rest)) :
    ∃ (b : Gap) (inside : List Char),
      text = b.1 ++ '[' :: inside ∧ leave endList (list inside) = .ok (a, rest) ∨
      text = b.1 ++ '\x7b' :: inside ∧ leave endObject (object inside) = .ok (a, rest) := by
  unfold readBracketed at taken
  split at taken
  · cases taken
  · next c more head =>
    obtain ⟨b, split⟩ := exists_gap head
    split at taken
    · next isList => exact ⟨b, more, .inl ⟨by rw [split, isList], taken⟩⟩
    · split at taken
      · next isObject => exact ⟨b, more, .inr ⟨by rw [split, isObject], taken⟩⟩
      · cases taken

theorem toOption_leave {α : Type} {close : List Char → Option Failure × List Char}
    {inside : Inside α} {a : α} {after rest : List Char} (taken : inside.toOption = some (a, after))
    (closed : close after = (none, rest)) : (leave close inside).toOption = some (a, rest) :=
  toOption_eq_some.2 (leave_eq_ok.2 ⟨after, toOption_eq_some.1 taken, closed⟩)

theorem toOption_leave_none {α : Type} {close : List Char → Option Failure × List Char}
    {inside : Inside α} (failed : inside.toOption = none) :
    (leave close inside).toOption = none := by
  cases inside with
  | ok x => cases failed
  | error halt => cases halt <;> rfl

/-- **A bracket is read as its inside is**, then as a whole, if its end stands where the inside
was left. -/
theorem toOption_leave_bind {α δ : Type} {close : List Char → Option Failure × List Char}
    {inside : Inside δ} {finish : δ → List Char → Inside α} {conclude : δ → Option α}
    {found : Option δ} {after rest : List Char} (taken : inside.toOption = found.map (·, after))
    (finishes : ∀ d rest, (finish d rest).toOption = (conclude d).map (·, rest))
    (closed : close after = (none, rest)) :
    (leave close (Except.bind inside fun x => finish x.1 x.2)).toOption =
      (found.bind conclude).map (·, rest) := by
  cases inside with
  | error halt =>
    have refused : found = none := by simpa using taken.symm
    rw [refused]
    exact toOption_leave_none rfl
  | ok x =>
    obtain ⟨d, rfl, rfl⟩ := Option.map_eq_some_iff.1 taken.symm
    have finished := finishes d after
    show (leave close (finish d after)).toOption = (conclude d).map (·, rest)
    cases concluded : conclude d with
    | none =>
      rw [concluded] at finished
      exact toOption_leave_none finished
    | some a =>
      rw [concluded] at finished
      exact toOption_leave finished closed

/-! ## Elements -/

/-- What stands in front of an element or a member: nothing for the first, else a comma. -/
def separator (first : Bool) : List Char :=
  if first then [] else [',']

theorem toElement_append (first : Bool) {v : List Char} (value : IsValue v) (b c : Gap)
    (rest : List Char) :
    toElement first (b.1 ++ separator first ++ c.1 ++ v ++ rest) = .ok (true, v ++ rest) := by
  obtain ⟨d, more, rfl, solid, notEnd, _⟩ := value.head
  unfold toElement
  cases first with
  | true =>
    have head : skipBlank (b.1 ++ separator true ++ c.1 ++ d :: more ++ rest) =
        d :: (more ++ rest) := by
      simp [separator, skipBlank_append b.2, c.2.skipBlank_cons solid]
    rw [head]
    simp [notEnd]
  | false =>
    have head : skipBlank (b.1 ++ separator false ++ c.1 ++ d :: more ++ rest) =
        ',' :: (c.1 ++ d :: (more ++ rest)) := by
      simp [separator, skipBlank_append b.2, skipBlank_cons, isBlank]
    rw [head]
    simp [c.2.skipBlank_cons solid, notEnd]

theorem toElement_sound {first : Bool} {text rest : List Char}
    (taken : toElement first text = .ok (true, rest)) :
    ∃ b c : Gap, text = b.1 ++ separator first ++ c.1 ++ rest := by
  unfold toElement at taken
  split at taken
  · cases taken
  · next c more head =>
    obtain ⟨b, split⟩ := exists_gap head
    split at taken
    · cases taken
    · split at taken
      · next isComma =>
        obtain ⟨isComma, later⟩ := isComma
        have later : first = false := by simpa using later
        split at taken
        · cases taken
        · next d after head' =>
          obtain ⟨b', split'⟩ := exists_gap head'
          split at taken
          · cases taken
          · cases taken
            exact ⟨b, b', by rw [split, isComma, split', later]; simp [separator]⟩
      · split at taken
        · cases taken
        · next isFirst =>
          have isFirst : first = true := by simpa using isFirst
          cases taken
          exact ⟨b, ⟨[], .nil⟩, by rw [split, isFirst]; simp [separator]⟩

section Elements

variable {α : Type} {read : Reader α} {Means : List Char → α → Prop}

/-- An element is read where the element before it ended. -/
theorem readElement_append (count : Nat) (expected : String) {v rest : List Char} {a : α}
    (b c : Gap) (value : IsValue v) (taken : read (v ++ rest) = .ok (a, rest)) :
    readElement count expected read (b.1 ++ separator (count = 0) ++ c.1 ++ v ++ rest) =
      .ok (a, rest) := by
  rw [readElement, toElement_append _ value]
  show placing (read (v ++ rest)) = _
  rw [taken]
  rfl

theorem readElement_sound (recognizes : Recognizes read Means) {count : Nat} {expected : String}
    {text rest : List Char} {a : α} (taken : readElement count expected read text = .ok (a, rest)) :
    ∃ (b c : Gap) (v : List Char), text = b.1 ++ separator (count = 0) ++ c.1 ++ v ++ rest ∧
      Means v a ∧ EndsBefore v rest := by
  obtain ⟨⟨present, after⟩, reached, inner⟩ := bind_eq_ok.1 taken
  cases present with
  | false => cases inner
  | true =>
    obtain ⟨b, c, rfl⟩ := toElement_sound (placing_eq_ok.1 reached)
    obtain ⟨b', v, rfl, blanks, means, ends⟩ := recognizes.sound (placing_eq_ok.1 inner)
    exact ⟨b, ⟨_, c.2.append blanks⟩, v, by simp, means, ends⟩

end Elements

end Duet.Json
