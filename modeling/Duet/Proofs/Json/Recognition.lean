import Duet.Proofs.Json.Skipping

/-!
# Readers and what they accept

A typed reader looks only as far as it has to, so it is not clear from its text what it leaves
behind. `Recognizes` says of a reader that it takes one value with the blanks in front of it, that
this value means what was read, and that every value of that meaning is taken.

**Such a reader stops exactly where the value ends** (`Recognizes.read_iff`), whatever follows, and
what it makes of a value is what it makes of the value alone (`Recognizes.toOption_read`).

What this does not establish: anything about failures beyond that there is one.
-/

namespace Duet.Json

/-- **A reader takes exactly the values with a meaning.** -/
structure Recognizes {α : Type} (read : Reader α) (Means : List Char → α → Prop) : Prop where
  isValue {w : List Char} {a : α} (means : Means w a) : IsValue w
  sound {text rest : List Char} {a : α} (taken : read text = .ok (a, rest)) :
    ∃ b w, text = b ++ w ++ rest ∧ Blanks b ∧ Means w a ∧ EndsBefore w rest
  complete {b w rest : List Char} {a : α} (blanks : Blanks b) (means : Means w a)
    (ends : EndsBefore w rest) : read (b ++ w ++ rest) = .ok (a, rest)

/-! ## Readings that succeed -/

theorem toOption_eq_some {ε α : Type} {x : Except ε α} {a : α} :
    x.toOption = some a ↔ x = .ok a := by
  cases x <;> simp [Except.toOption]

@[simp] theorem toOption_ok {ε α : Type} (a : α) :
    (Except.ok a : Except ε α).toOption = some a :=
  rfl

@[simp] theorem toOption_error {ε α : Type} (e : ε) :
    (Except.error e : Except ε α).toOption = none :=
  rfl

@[simp] theorem toOption_bind {ε α β : Type} (x : Except ε α) (f : α → Except ε β) :
    (x >>= f).toOption = x.toOption.bind fun a => (f a).toOption := by
  cases x <;> rfl

theorem toOption_map {ε α β : Type} (f : α → β) (x : Except ε α) :
    (x.map f).toOption = x.toOption.map f := by
  cases x <;> rfl

/-! ## Whole texts -/

theorem blanks_iff_skipBlank {text : List Char} : Blanks text ↔ skipBlank text = [] := by
  constructor
  · exact skipBlank_blanks
  · intro empty
    obtain ⟨b, blanks, split⟩ := exists_blanks text
    rw [empty, List.append_nil] at split
    rwa [split]

theorem readWhole_eq_ok {α : Type} {read : Reader α} {text : List Char} {a : α} :
    readWhole read text = .ok a ↔ ∃ rest, read text = .ok (a, rest) ∧ Blanks rest := by
  unfold readWhole
  rw [bind_eq_ok]
  constructor
  · rintro ⟨⟨a', rest⟩, taken, settled⟩
    dsimp only at settled
    split at settled
    · next empty =>
      cases settled
      exact ⟨rest, taken, blanks_iff_skipBlank.2 empty⟩
    · cases settled
  · rintro ⟨rest, taken, blanks⟩
    exact ⟨(a, rest), taken, by simp [skipBlank_blanks blanks]⟩

/-- Blanks after a value that was read make no difference. -/
theorem toOption_readWhole {α : Type} {read : Reader α} {text rest : List Char} {found : Option α}
    (blanks : Blanks rest) (taken : (read text).toOption = found.map (·, rest)) :
    (readWhole read text).toOption = found := by
  cases found with
  | some a =>
    exact toOption_eq_some.2 (readWhole_eq_ok.2 ⟨rest, toOption_eq_some.1 taken, blanks⟩)
  | none =>
    unfold readWhole
    rw [toOption_bind, taken]
    rfl

namespace Recognizes

variable {α : Type} {read : Reader α} {Means : List Char → α → Prop}

/-- **Where a value stands, the reader takes it whole or not at all.** -/
theorem read_iff (recognizes : Recognizes read Means) {b v rest r : List Char} {a : α}
    (blanks : Blanks b) (value : IsValue v) (ends : EndsBefore v rest) :
    read (b ++ v ++ rest) = .ok (a, r) ↔ Means v a ∧ r = rest := by
  constructor
  · -- What was taken is a value too, and the walk over values tells that it is the same one.
    intro taken
    obtain ⟨b', w, split, blanks', means, ends'⟩ := recognizes.sound taken
    obtain ⟨rfl, rfl⟩ :=
      IsValue.unique blanks value ends blanks' (recognizes.isValue means) ends' split
    exact ⟨means, rfl⟩
  · rintro ⟨means, rfl⟩
    exact recognizes.complete blanks means ends

/-- A whole text is a value with blanks around it. -/
theorem readWhole_iff (recognizes : Recognizes read Means) {text : List Char} {a : α} :
    readWhole read text = .ok a ↔
      ∃ b w c, text = b ++ w ++ c ∧ Blanks b ∧ Blanks c ∧ Means w a := by
  rw [readWhole_eq_ok]
  constructor
  · rintro ⟨rest, taken, after⟩
    obtain ⟨b, w, rfl, before, means, _⟩ := recognizes.sound taken
    exact ⟨b, w, rest, rfl, before, after, means⟩
  · rintro ⟨b, w, c, rfl, before, after, means⟩
    have detached : Detached c := by simpa using Detached.blanks after .nil
    exact ⟨c, recognizes.complete before means (detached.endsBefore w), after⟩

/-- A value read on its own gives what it means. -/
theorem readWhole_value (recognizes : Recognizes read Means) {v : List Char} {a : α}
    (value : IsValue v) : readWhole read v = .ok a ↔ Means v a := by
  rw [readWhole_eq_ok]
  have alone {r : List Char} : read ([] ++ v ++ []) = .ok (a, r) ↔ Means v a ∧ r = [] :=
    recognizes.read_iff .nil value (Detached.nil.endsBefore v)
  simp only [List.nil_append, List.append_nil] at alone
  constructor
  · rintro ⟨rest, taken, _⟩
    exact (alone.1 taken).1
  · intro means
    exact ⟨[], alone.2 ⟨means, rfl⟩, .nil⟩

/-- **What follows a value and what stands before it make no difference.** -/
theorem toOption_read (recognizes : Recognizes read Means) {b v rest : List Char}
    (blanks : Blanks b) (value : IsValue v) (ends : EndsBefore v rest) :
    (read (b ++ v ++ rest)).toOption = (readWhole read v).toOption.map (·, rest) := by
  ext ⟨a, r⟩
  rw [toOption_eq_some, recognizes.read_iff blanks value ends, Option.map_eq_some_iff]
  constructor
  · rintro ⟨means, rfl⟩
    exact ⟨a, toOption_eq_some.2 ((recognizes.readWhole_value value).2 means), rfl⟩
  · rintro ⟨a', whole, same⟩
    cases same
    exact ⟨(recognizes.readWhole_value value).1 (toOption_eq_some.1 whole), rfl⟩

end Recognizes

/-! ## Whole numbers -/

theorem IntRange.settle_eq_ok {range : IntRange} {read : Except Failure (Number × List Char)}
    {i : Int} {rest : List Char} :
    range.settle read = .ok (i, rest) ↔ ∃ n, read = .ok (n, rest) ∧ range.member n = .ok i := by
  unfold IntRange.settle
  rw [bind_eq_ok]
  constructor
  · rintro ⟨⟨n, after⟩, taken, settled⟩
    dsimp only at settled
    split at settled
    · next j member =>
      cases settled
      exact ⟨n, taken, member⟩
    · cases settled
  · rintro ⟨n, taken, member⟩
    exact ⟨(n, rest), taken, by simp [member]⟩

/-- The whole numbers of a range and their values. -/
def IntRange.Means (range : IntRange) (w : List Char) (n : Int) : Prop :=
  IsInteger w n ∧ range.low ≤ n ∧ n ≤ range.high

theorem readInteger_sound {range : IntRange} {text rest : List Char} {n : Int}
    (taken : readInteger range text = .ok (n, rest)) :
    ∃ b w, text = b ++ w ++ rest ∧ Blanks b ∧ range.Means w n ∧ EndsBefore w rest := by
  obtain ⟨b, blanks, split⟩ := exists_blanks text
  unfold readInteger at taken
  split at taken
  · cases taken
  · next c more head =>
    rw [head] at split
    split at taken
    · next isMinus =>
      obtain ⟨number, taken, member⟩ := IntRange.settle_eq_ok.1 taken
      obtain ⟨integer, bounds⟩ := IntRange.member_eq_ok.1 member
      obtain ⟨ds, rfl, whole, ⟨notZero, rfl⟩, detached⟩ := readNumber_integer taken integer
      exact ⟨b, '-' :: ds, by rw [split, isMinus]; simp, blanks,
        ⟨.negative whole notZero, bounds⟩, detached.endsBefore _⟩
    · split at taken
      · obtain ⟨number, taken, member⟩ := IntRange.settle_eq_ok.1 taken
        obtain ⟨integer, bounds⟩ := IntRange.member_eq_ok.1 member
        obtain ⟨ds, shape, whole, signed, detached⟩ := readNumber_integer taken integer
        have value : n = Text.numeralValue 0 ds := signed
        refine ⟨b, ds, by rw [split, shape]; simp, blanks, ⟨?_, bounds⟩, detached.endsBefore _⟩
        rw [value]
        exact .natural whole
      · cases taken

theorem readInteger_complete {range : IntRange} (fits : range.Exact) {b w rest : List Char}
    {n : Int} (blanks : Blanks b) (means : range.Means w n) (ends : EndsBefore w rest) :
    readInteger range (b ++ w ++ rest) = .ok (n, rest) := by
  obtain ⟨integer, low, high⟩ := means
  have value : IsValue w := .number integer.isNumber
  have detached := ends integer.isNumber
  have lowest := Int.le_trans fits.low low
  have highest := Int.le_trans high fits.high
  unfold readInteger
  rw [value.skipBlank_append blanks]
  cases integer with
  | natural whole =>
    obtain ⟨number, read, isInteger⟩ :=
      readNumber_append false whole rfl lowest highest detached
    obtain ⟨c, more, rfl, digit⟩ := whole.head
    have settled := IntRange.settle_eq_ok.2
      ⟨number, read, IntRange.member_eq_ok.2 ⟨isInteger, low, high⟩⟩
    simp only [List.cons_append] at settled ⊢
    rw [if_neg (ne_of_isDigit digit '-' (by decide)), if_pos digit]
    exact settled
  | negative whole notZero =>
    obtain ⟨number, read, isInteger⟩ :=
      readNumber_append true whole ⟨notZero, rfl⟩ lowest highest detached
    simp only [List.cons_append, if_true]
    exact IntRange.settle_eq_ok.2 ⟨number, read, IntRange.member_eq_ok.2 ⟨isInteger, low, high⟩⟩

/-- **A whole number is read exactly if it is written as one and lies in the range.** -/
theorem readInteger_recognizes {range : IntRange} (fits : range.Exact) :
    Recognizes (readInteger range) range.Means where
  isValue means := .number means.1.isNumber
  sound taken := readInteger_sound taken
  complete blanks means ends := readInteger_complete fits blanks means ends

/-! ## Texts and nothing -/

/-- A string literal and the text it stands for. -/
def TextMeans (w cs : List Char) : Prop :=
  ∃ k, w = '"' :: k ++ ['"'] ∧ Spells k cs

theorem TextMeans.isValue {w cs : List Char} (means : TextMeans w cs) : IsValue w := by
  obtain ⟨k, rfl, spells⟩ := means
  exact .string spells.literal

theorem TextMeans.endsBefore {w cs : List Char} (means : TextMeans w cs) (rest : List Char) :
    EndsBefore w rest := by
  obtain ⟨k, rfl, _⟩ := means
  exact endsBefore_of_head (by decide) (by decide) _ _

theorem readText_recognizes : Recognizes readText TextMeans where
  isValue means := means.isValue
  sound := by
    intro text rest cs taken
    obtain ⟨b, blanks, split⟩ := exists_blanks text
    unfold readText at taken
    split at taken
    · next more head =>
      obtain ⟨k, rfl, spells⟩ := readString_eq_ok.1 taken
      have means : TextMeans ('"' :: k ++ ['"']) cs := ⟨k, rfl, spells⟩
      refine ⟨b, '"' :: k ++ ['"'], ?_, blanks, means, means.endsBefore rest⟩
      rw [split, head]
      simp
    · cases taken
  complete := by
    intro b w rest cs blanks means ends
    have value := means.isValue
    obtain ⟨k, rfl, spells⟩ := means
    unfold readText
    rw [value.skipBlank_append blanks]
    simp only [List.cons_append, List.append_assoc, List.nil_append]
    exact readString_append spells rest

theorem readWord_eq_ok {w text rest : List Char} :
    readWord w text = .ok ((), rest) ↔ text = w ++ rest := by
  induction w generalizing text with
  | nil => simp [readWord]
  | cons c w ih =>
    cases text with
    | nil => simp [readWord]
    | cons d text =>
      rw [readWord]
      split
      · next same => simp [ih, same]
      · next other => simp [other]

theorem endsBefore_null (rest : List Char) : EndsBefore "null".toList rest :=
  endsBefore_of_head (by decide) (by decide) _ _

theorem readNull_recognizes : Recognizes readNull fun w _ => w = "null".toList where
  isValue means := means ▸ .null
  sound := by
    intro text rest _ taken
    obtain ⟨b, blanks, split⟩ := exists_blanks text
    unfold readNull at taken
    split at taken
    · next more head =>
      rw [readWord_eq_ok.1 taken] at head
      refine ⟨b, "null".toList, ?_, blanks, rfl, endsBefore_null rest⟩
      rw [split, head]
      simp
    · cases taken
  complete := by
    rintro b _ rest _ blanks rfl ends
    unfold readNull
    rw [Derives.null.skipBlank_append blanks]
    exact readWord_eq_ok.2 rfl

/-- Nothing is written `null`, and something as it is on its own. -/
def OptionMeans {α : Type} (Means : List Char → α → Prop) (w : List Char) : Option α → Prop
  | none => w = "null".toList
  | some a => Means w a

/-- Nothing can be told from something that never begins as `null` does. -/
theorem readOptional_recognizes {α : Type} {read : Reader α} {Means : List Char → α → Prop}
    (recognizes : Recognizes read Means)
    (notNull : ∀ {w : List Char} {a : α}, Means w a → w.head? ≠ some 'n') :
    Recognizes (readOptional read) (OptionMeans Means) where
  isValue := by
    intro w o means
    cases o with
    | none =>
      have word : w = "null".toList := means
      rw [word]
      exact .null
    | some a => exact recognizes.isValue means
  sound := by
    intro text rest o taken
    obtain ⟨b, blanks, split⟩ := exists_blanks text
    unfold readOptional at taken
    split at taken
    · next more head =>
      obtain ⟨⟨_, after⟩, word, settled⟩ := bind_eq_ok.1 taken
      cases settled
      rw [readWord_eq_ok.1 word] at head
      refine ⟨b, "null".toList, ?_, blanks, rfl, endsBefore_null rest⟩
      rw [split, head]
      simp
    · obtain ⟨⟨a, after⟩, inner, settled⟩ := bind_eq_ok.1 taken
      cases settled
      obtain ⟨b', w, shape, blanks', means, ends⟩ := recognizes.sound inner
      exact ⟨b ++ b', w, by rw [split, shape]; simp, blanks.append blanks', means, ends⟩
  complete := by
    intro b w rest o blanks means ends
    unfold readOptional
    cases o with
    | none =>
      have word : w = "null".toList := means
      rw [word, Derives.null.skipBlank_append blanks]
      show (readWord "ull".toList ("ull".toList ++ rest) >>= fun x => Except.ok (none, x.2)) = _
      rw [readWord_eq_ok.2 rfl]
      rfl
    | some a =>
      have value := recognizes.isValue means
      have taken : read (w ++ rest) = .ok (a, rest) := recognizes.complete .nil means ends
      rw [value.skipBlank_append blanks]
      split
      · next more head =>
        obtain ⟨c, tail, rfl, _⟩ := value.head
        exact absurd (by rw [(List.cons.inj head).1]; rfl) (notNull means)
      · rw [taken]
        rfl

end Duet.Json
