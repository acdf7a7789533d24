import Duet.Json.Shape

/-!
# The grammar of JSON texts

What the readers and the walk over a value take in, said without them: which texts are string
literals and what they stand for, which are numbers, and which are values, however deep. A text
is taken apart into words, so that a reader's account is always "a word, and the rest".

**A value and the rest after it are found in one way only**, if a number is not followed by
something that a number could go on with (`Detached`). The proof of this is the walk itself, in
`Proofs.Json.Skipping`.

What this does not say: a literal may hold half a surrogate pair and be a part of a value all the
same (`Literal`); it only stands for no text (`Spells`).
-/

namespace Duet.Json

open Text (isDigit)

/-! ## Blanks -/

/-- Nothing but blanks. -/
def Blanks (b : List Char) : Prop :=
  ∀ c ∈ b, isBlank c = true

instance (b : List Char) : Decidable (Blanks b) :=
  decidable_of_iff (b.all isBlank = true) List.all_eq_true

theorem Blanks.nil : Blanks [] :=
  fun _ h => absurd h List.not_mem_nil

theorem Blanks.append {a b : List Char} (first : Blanks a) (second : Blanks b) :
    Blanks (a ++ b) := by
  intro c isIn
  rcases List.mem_append.1 isIn with h | h
  · exact first c h
  · exact second c h

theorem skipBlank_append {b : List Char} (blanks : Blanks b) (text : List Char) :
    skipBlank (b ++ text) = skipBlank text :=
  List.dropWhile_append_of_pos blanks

theorem skipBlank_cons {c : Char} (solid : isBlank c = false) (text : List Char) :
    skipBlank (c :: text) = c :: text :=
  List.dropWhile_cons_of_neg (by simp [solid])

/-- What follows the blanks is left, from the first character that is none on. -/
theorem Blanks.skipBlank_cons {b : List Char} (blanks : Blanks b) {c : Char}
    (solid : isBlank c = false) (rest : List Char) : skipBlank (b ++ c :: rest) = c :: rest := by
  rw [skipBlank_append blanks, Json.skipBlank_cons solid]

theorem skipBlank_blanks {b : List Char} (blanks : Blanks b) : skipBlank b = [] := by
  rw [← List.append_nil b, skipBlank_append blanks]
  rfl

/-- Every text begins with the blanks that are passed over. -/
theorem exists_blanks (text : List Char) : ∃ b, Blanks b ∧ text = b ++ skipBlank text := by
  refine ⟨text.takeWhile isBlank, List.all_eq_true.1 List.all_takeWhile, ?_⟩
  exact List.takeWhile_append_dropWhile.symm

/-- What is left when blanks were passed over does not begin with one. -/
theorem isBlank_of_skipBlank {text rest : List Char} {c : Char}
    (left : skipBlank text = c :: rest) : isBlank c = false := by
  have head := List.head?_dropWhile_not isBlank text
  rw [show text.dropWhile isBlank = c :: rest from left] at head
  simpa using head

/-! ## String literals -/

/-- Four hexadecimal digits and the code they make up. -/
inductive Code : List Char → Nat → Prop where
  | digits {a b c d : Char} {w x y z : Nat} (first : hexValue? a = some w)
    (second : hexValue? b = some x) (third : hexValue? c = some y)
    (fourth : hexValue? d = some z) : Code [a, b, c, d] (((w * 16 + x) * 16 + y) * 16 + z)

/-- What may follow a backslash, and the character it stands for. -/
inductive Escape : List Char → Char → Prop where
  | simple {e c : Char} (known : simpleEscape? e = some c) : Escape [e] c
  | code {ds : List Char} {n : Nat} (code : Code ds n) (notHigh : isHighHalf n = false)
    (notLow : isLowHalf n = false) : Escape ('u' :: ds) (Char.ofNat n)
  | pair {ds es : List Char} {h l : Nat} (high : Code ds h) (isHigh : isHighHalf h = true)
    (low : Code es l) (isLow : isLowHalf l = true) :
    Escape ('u' :: ds ++ '\\' :: 'u' :: es) (joinHalves h l)

/-- A character that stands for itself in a literal. -/
def IsPlain (c : Char) : Prop :=
  c ≠ '"' ∧ c ≠ '\\' ∧ ¬ c < ' '

/-- **The inside of a literal and the text it stands for.** -/
inductive Spells : List Char → List Char → Prop where
  | nil : Spells [] []
  | plain {c : Char} {w cs : List Char} (plain : IsPlain c) (rest : Spells w cs) :
    Spells (c :: w) (c :: cs)
  | escape {e w cs : List Char} {c : Char} (escape : Escape e c) (rest : Spells w cs) :
    Spells ('\\' :: e ++ w) (c :: cs)

/-- The inside of a literal by its form alone: codes need not make up characters. -/
inductive Literal : List Char → Prop where
  | nil : Literal []
  | plain {c : Char} {w : List Char} (plain : IsPlain c) (rest : Literal w) : Literal (c :: w)
  | simple {e c : Char} {w : List Char} (known : simpleEscape? e = some c) (rest : Literal w) :
    Literal ('\\' :: e :: w)
  | code {ds w : List Char} {n : Nat} (code : Code ds n) (rest : Literal w) :
    Literal ('\\' :: 'u' :: ds ++ w)

/-- What stands for a text has the form of a literal. -/
theorem Spells.literal {w cs : List Char} (spells : Spells w cs) : Literal w := by
  induction spells with
  | nil => exact .nil
  | plain plain _ ih => exact .plain plain ih
  | escape escape _ ih =>
    cases escape with
    | simple known => exact .simple known ih
    | code code notHigh notLow => exact .code code ih
    | pair high isHigh low isLow =>
      simp only [List.cons_append, List.append_assoc]
      exact .code high (.code low ih)

/-! ## Numbers -/

/-- At least one digit. -/
def Digits (ds : List Char) : Prop :=
  ds ≠ [] ∧ ∀ c ∈ ds, isDigit c = true

/-- The digits before a point: a zero alone, or digits that do not begin with a zero. -/
def Whole (ds : List Char) : Prop :=
  ds = ['0'] ∨ Digits ds ∧ ds.head? ≠ some '0'

/-- A fraction, or nothing. -/
def Fraction (w : List Char) : Prop :=
  w = [] ∨ ∃ ds, Digits ds ∧ w = '.' :: ds

/-- An exponent, or nothing. -/
def Exponent (w : List Char) : Prop :=
  w = [] ∨ ∃ letter sign ds, (letter = 'e' ∨ letter = 'E') ∧
    (sign = [] ∨ sign = ['+'] ∨ sign = ['-']) ∧ Digits ds ∧ w = letter :: sign ++ ds

/-- **A number.** -/
inductive IsNumber : List Char → Prop where
  | positive {ds f x : List Char} (whole : Whole ds) (fraction : Fraction f)
    (exponent : Exponent x) : IsNumber (ds ++ f ++ x)
  | negative {ds f x : List Char} (whole : Whole ds) (fraction : Fraction f)
    (exponent : Exponent x) : IsNumber ('-' :: ds ++ f ++ x)

/-- A rest that no number in front of it could go on with. -/
def Detached (rest : List Char) : Prop :=
  ∀ c, rest.head? = some c → isDigit c = false ∧ c ≠ '.' ∧ c ≠ 'e' ∧ c ≠ 'E'

theorem Detached.nil : Detached [] := by
  intro c head
  cases head

theorem Detached.cons {c : Char} (rest : List Char)
    (ends : isDigit c = false ∧ c ≠ '.' ∧ c ≠ 'e' ∧ c ≠ 'E') : Detached (c :: rest) := by
  intro d head
  cases head
  exact ends

theorem Detached.blanks {b rest : List Char} (blanks : Blanks b) (detached : Detached rest) :
    Detached (b ++ rest) := by
  cases b with
  | nil => exact detached
  | cons c b =>
    have blank := blanks c List.mem_cons_self
    refine Detached.cons _ ?_
    simp only [isBlank, Bool.or_eq_true, decide_eq_true_eq] at blank
    rcases blank with ((rfl | rfl) | rfl) | rfl <;> decide

/-! ## Values -/

/-- The character that opens a bracket. -/
def Bracket.opener : Bracket → Char
  | .list => '['
  | .object => '\x7b'

/-- The parts that values are made of. -/
inductive Part where
  | value
  /-- An element or a member, with the blanks around it. -/
  | entry (bracket : Bracket)
  /-- Elements or members with commas between them. -/
  | entries (bracket : Bracket)
  deriving DecidableEq, Repr

/-- **The texts of a part.** -/
inductive Derives : Part → List Char → Prop where
  | null : Derives .value "null".toList
  | yes : Derives .value "true".toList
  | no : Derives .value "false".toList
  | number {w : List Char} (number : IsNumber w) : Derives .value w
  | string {w : List Char} (literal : Literal w) : Derives .value ('"' :: w ++ ['"'])
  | empty {b : List Char} (bracket : Bracket) (blanks : Blanks b) :
    Derives .value (bracket.opener :: b ++ [bracket.closer])
  | bracket {w : List Char} {bracket : Bracket} (inside : Derives (.entries bracket) w) :
    Derives .value (bracket.opener :: w ++ [bracket.closer])
  | element {a w b : List Char} (before : Blanks a) (value : Derives .value w)
    (after : Blanks b) : Derives (.entry .list) (a ++ w ++ b)
  | member {a k b c w d : List Char} (before : Blanks a) (key : Literal k) (colon : Blanks b)
    (lead : Blanks c) (value : Derives .value w) (after : Blanks d) :
    Derives (.entry .object) (a ++ '"' :: k ++ '"' :: b ++ ':' :: c ++ w ++ d)
  | one {w : List Char} {bracket : Bracket} (entry : Derives (.entry bracket) w) :
    Derives (.entries bracket) w
  | more {w more : List Char} {bracket : Bracket} (entry : Derives (.entry bracket) w)
    (rest : Derives (.entries bracket) more) : Derives (.entries bracket) (w ++ ',' :: more)

/-- A value, without blanks around it. -/
abbrev IsValue (w : List Char) : Prop :=
  Derives .value w

/-- A rest before which a word ends: a number there could not go on. -/
def EndsBefore (w rest : List Char) : Prop :=
  IsNumber w → Detached rest

theorem Detached.endsBefore {rest : List Char} (detached : Detached rest) (w : List Char) :
    EndsBefore w rest :=
  fun _ => detached

/-- A character that a value may begin with. -/
def Opens (c : Char) : Prop :=
  isBlank c = false ∧ c ≠ ']' ∧ c ≠ '\x7d' ∧ c ≠ ','

theorem ne_of_isDigit {c : Char} (digit : isDigit c = true) (d : Char)
    (other : isDigit d = false) : c ≠ d := by
  rintro rfl
  simp [digit] at other

theorem opens_of_isDigit {c : Char} (digit : isDigit c = true) : Opens c := by
  have ne := ne_of_isDigit digit
  refine ⟨?_, ne ']' (by decide), ne '\x7d' (by decide), ne ',' (by decide)⟩
  rw [isBlank]
  simp [ne ' ' (by decide), ne '\n' (by decide), ne '\t' (by decide), ne '\r' (by decide)]

theorem Whole.head {ds : List Char} (whole : Whole ds) :
    ∃ c more, ds = c :: more ∧ isDigit c = true := by
  rcases whole with rfl | ⟨⟨nonempty, digits⟩, _⟩
  · exact ⟨'0', [], rfl, by decide⟩
  · obtain ⟨c, more, rfl⟩ := List.exists_cons_of_ne_nil nonempty
    exact ⟨c, more, rfl, digits c List.mem_cons_self⟩

/-- A number begins with a digit or a minus sign. -/
theorem IsNumber.head {w : List Char} (number : IsNumber w) :
    ∃ c more, w = c :: more ∧ (isDigit c = true ∨ c = '-') := by
  cases number with
  | positive whole _ _ =>
    obtain ⟨c, more, rfl, digit⟩ := whole.head
    exact ⟨c, _, rfl, .inl digit⟩
  | negative => exact ⟨'-', _, rfl, .inr rfl⟩

/-- A word that begins as no number does ends before everything. -/
theorem endsBefore_of_head {c : Char} (notDigit : isDigit c = false) (notMinus : c ≠ '-')
    (w rest : List Char) : EndsBefore (c :: w) rest := by
  intro number
  obtain ⟨d, more, same, digit | minus⟩ := number.head
  · rw [(List.cons.inj same).1, digit] at notDigit
    cases notDigit
  · rw [← minus, (List.cons.inj same).1] at notMinus
    exact absurd rfl notMinus

/-- A value begins with a character that ends nothing. -/
theorem Derives.head {w : List Char} (value : IsValue w) : ∃ c more, w = c :: more ∧ Opens c := by
  cases value with
  | null => exact ⟨'n', _, rfl, by decide, by decide, by decide, by decide⟩
  | yes => exact ⟨'t', _, rfl, by decide, by decide, by decide, by decide⟩
  | no => exact ⟨'f', _, rfl, by decide, by decide, by decide, by decide⟩
  | string => exact ⟨'"', _, rfl, by decide, by decide, by decide, by decide⟩
  | number number =>
    obtain ⟨c, more, rfl, digit | rfl⟩ := number.head
    · exact ⟨c, more, rfl, opens_of_isDigit digit⟩
    · exact ⟨'-', more, rfl, by decide, by decide, by decide, by decide⟩
  | empty bracket =>
    cases bracket
    · exact ⟨'[', _, rfl, by decide, by decide, by decide, by decide⟩
    · exact ⟨'\x7b', _, rfl, by decide, by decide, by decide, by decide⟩
  | @bracket _ bracket =>
    cases bracket
    · exact ⟨'[', _, rfl, by decide, by decide, by decide, by decide⟩
    · exact ⟨'\x7b', _, rfl, by decide, by decide, by decide, by decide⟩

theorem Derives.ne_nil {w : List Char} (value : IsValue w) : w ≠ [] := by
  obtain ⟨c, more, rfl, _⟩ := value.head
  simp

/-- Blanks in front of a value are passed over, and nothing else is. -/
theorem Derives.skipBlank_append {w b : List Char} (value : IsValue w) (blanks : Blanks b)
    (rest : List Char) : skipBlank (b ++ w ++ rest) = w ++ rest := by
  obtain ⟨c, more, rfl, solid, _⟩ := value.head
  rw [List.append_assoc, Json.skipBlank_append blanks]
  exact skipBlank_cons solid _

end Duet.Json
