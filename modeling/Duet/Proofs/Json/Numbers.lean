import Duet.Proofs.Json.Literals

/-!
# Numbers and whole numbers

A number in front of a rest that it could not go on with is passed over exactly. Read as a value,
it stays a whole number exactly if it is written as one, without fraction and exponent, is no
negative zero, and fits: digits are taken in one by one, and the first that would not fit makes a
real number of all of them.

**A whole number that is read has the value of its digits** (`readNumber_integer`): nothing is
wrapped, cut off or rounded.

What this does not establish: which machine number stands for a real number. No value that is
kept depends on it.
-/

namespace Duet.Json

open Text (isDigit digitValue numeralValue le_numeralValue)

/-! ## Rows of digits -/

/-- A rest that no row of digits in front of it could go on with. -/
def NoDigit (rest : List Char) : Prop :=
  ∀ c, rest.head? = some c → isDigit c = false

theorem Detached.noDigit {rest : List Char} (detached : Detached rest) : NoDigit rest :=
  fun c head => (detached c head).1

private theorem NoDigit.cons {c : Char} (notDigit : isDigit c = false) (rest : List Char) :
    NoDigit (c :: rest) := by
  intro d head
  cases head
  exact notDigit

theorem noDigit_dropWhile (text : List Char) : NoDigit (text.dropWhile isDigit) := by
  intro c head
  have stopped := List.head?_dropWhile_not isDigit text
  rw [head] at stopped
  simpa using stopped

theorem NoDigit.dropWhile_append {ds rest : List Char} (digits : ∀ c ∈ ds, isDigit c = true)
    (stop : NoDigit rest) : (ds ++ rest).dropWhile isDigit = rest := by
  rw [List.dropWhile_append_of_pos digits]
  cases rest with
  | nil => rfl
  | cons c rest => exact List.dropWhile_cons_of_neg (by simp [stop c rfl])

theorem NoDigit.takeWhile_append {ds rest : List Char} (digits : ∀ c ∈ ds, isDigit c = true)
    (stop : NoDigit rest) : (ds ++ rest).takeWhile isDigit = ds := by
  rw [List.takeWhile_append_of_pos digits]
  cases rest with
  | nil => simp
  | cons c rest => simp [stop c rfl]

theorem Whole.digits {ds : List Char} (whole : Whole ds) : ∀ c ∈ ds, isDigit c = true := by
  rcases whole with rfl | ⟨⟨_, digits⟩, _⟩
  · intro c isIn
    rw [List.mem_singleton.1 isIn]
    decide
  · exact digits

/-! ## Passing over a number -/

theorem skipDigits_append {ds rest : List Char} (digits : Digits ds) (stop : NoDigit rest) :
    skipDigits (ds ++ rest) = .ok rest := by
  obtain ⟨nonempty, digits⟩ := digits
  obtain ⟨d, ds, rfl⟩ := List.exists_cons_of_ne_nil nonempty
  have rest_of : (ds ++ rest).dropWhile isDigit = rest :=
    stop.dropWhile_append fun c isIn => digits c (List.mem_cons_of_mem d isIn)
  simp [skipDigits, digits d List.mem_cons_self, rest_of]

private theorem skipExponent_of_detached {rest : List Char} (detached : Detached rest) :
    skipExponent rest = .ok rest := by
  unfold skipExponent
  split
  · exact absurd rfl (detached 'e' rfl).2.2.1
  · exact absurd rfl (detached 'E' rfl).2.2.2
  · rfl

private theorem skipExponent_letter {letter : Char} (isLetter : letter = 'e' ∨ letter = 'E')
    (text : List Char) :
    skipExponent (letter :: text) = match text with
      | '+' :: more | '-' :: more => skipDigits more
      | _ => skipDigits text := by
  rcases isLetter with rfl | rfl <;> rfl

theorem skipExponent_append {x rest : List Char} (exponent : Exponent x)
    (detached : Detached rest) : skipExponent (x ++ rest) = .ok rest := by
  rcases exponent with rfl | ⟨letter, sign, ds, isLetter, isSign, digits, rfl⟩
  · exact skipExponent_of_detached detached
  · have passed := skipDigits_append digits detached.noDigit
    rw [List.append_assoc, List.cons_append, skipExponent_letter isLetter]
    rcases isSign with rfl | rfl | rfl
    · obtain ⟨nonempty, digits⟩ := digits
      obtain ⟨d, ds, rfl⟩ := List.exists_cons_of_ne_nil nonempty
      have digit := digits d List.mem_cons_self
      split
      · next same =>
        cases same
        exact absurd digit (by decide)
      · next same =>
        cases same
        exact absurd digit (by decide)
      · exact passed
    · exact passed
    · exact passed

/-- What may follow a fraction does not begin with a digit or a point. -/
private theorem Exponent.head {x rest : List Char} (exponent : Exponent x)
    (detached : Detached rest) (c : Char) (head : (x ++ rest).head? = some c) :
    isDigit c = false ∧ c ≠ '.' := by
  rcases exponent with rfl | ⟨letter, sign, ds, isLetter, _, _, rfl⟩
  · exact ⟨(detached c head).1, (detached c head).2.1⟩
  · have same : letter = c := Option.some.inj head
    rw [← same]
    rcases isLetter with rfl | rfl <;> decide

theorem skipScale_append {f x rest : List Char} (fraction : Fraction f) (exponent : Exponent x)
    (detached : Detached rest) : skipScale (f ++ x ++ rest) = .ok rest := by
  have head := exponent.head detached
  have passed := skipExponent_append exponent detached
  rcases fraction with rfl | ⟨ds, ⟨nonempty, digits⟩, rfl⟩
  · rw [List.nil_append, skipScale]
    · exact passed
    · intro more same
      exact absurd rfl (head '.' (by rw [same]; rfl)).2
  · have stop : NoDigit (x ++ rest) := fun c h => (head c h).1
    rw [List.append_assoc, List.cons_append, skipScale, stop.takeWhile_append digits,
      stop.dropWhile_append digits]
    simp [nonempty, passed]

/-- What follows the digits before a point is never a digit. -/
private theorem Fraction.head {f x rest : List Char} (fraction : Fraction f)
    (exponent : Exponent x) (detached : Detached rest) : NoDigit (f ++ x ++ rest) := by
  rcases fraction with rfl | ⟨ds, _, rfl⟩
  · exact fun c head => (exponent.head detached c head).1
  · exact NoDigit.cons (by decide) _

theorem skipNumber_whole {ds rest : List Char} (whole : Whole ds) (stop : NoDigit rest) :
    skipNumber (ds ++ rest) = skipScale rest := by
  rcases whole with rfl | ⟨⟨nonempty, digits⟩, notZero⟩
  · cases rest with
    | nil => rfl
    | cons c rest => simp [skipNumber, stop c rfl]
  · obtain ⟨d, ds, rfl⟩ := List.exists_cons_of_ne_nil nonempty
    have rest_of : (ds ++ rest).dropWhile isDigit = rest :=
      stop.dropWhile_append fun c isIn => digits c (List.mem_cons_of_mem d isIn)
    have notZero : d ≠ '0' := fun same => notZero (by rw [same]; rfl)
    simp [skipNumber, notZero, digits d List.mem_cons_self, rest_of]

/-- **A number is passed over exactly**, after its sign if it has one. -/
theorem skipNumber_append {ds f x rest : List Char} (whole : Whole ds) (fraction : Fraction f)
    (exponent : Exponent x) (detached : Detached rest) :
    skipNumber (ds ++ f ++ x ++ rest) = .ok rest := by
  have stop := fraction.head exponent detached
  rw [List.append_assoc, List.append_assoc, ← List.append_assoc f, skipNumber_whole whole stop]
  exact skipScale_append fraction exponent detached

/-! ## Taking in digits -/

theorem absorb_of_le {limit : Nat} (ds : List Char) (n : Nat) (fits : numeralValue n ds ≤ limit) :
    absorb limit n ds = (numeralValue n ds, []) := by
  induction ds generalizing n with
  | nil => rfl
  | cons d ds ih =>
    have grows : n * 10 + digitValue d ≤ numeralValue (n * 10 + digitValue d) ds :=
      le_numeralValue _ ds
    rw [absorb, if_pos (by exact Nat.le_trans grows fits)]
    exact ih _ fits

theorem eq_numeralValue_of_absorb {limit : Nat} (ds : List Char) (n m : Nat)
    (all : absorb limit n ds = (m, [])) : m = numeralValue n ds := by
  induction ds generalizing n with
  | nil =>
    cases all
    rfl
  | cons d ds ih =>
    rw [absorb] at all
    split at all
    · exact ih _ all
    · cases all

/-! ## Whole numbers -/

/-- **A whole number and its value**; a negative zero is none. -/
inductive IsInteger : List Char → Int → Prop where
  | natural {ds : List Char} (whole : Whole ds) : IsInteger ds (numeralValue 0 ds)
  | negative {ds : List Char} (whole : Whole ds) (notZero : 0 < numeralValue 0 ds) :
    IsInteger ('-' :: ds) (-(numeralValue 0 ds))

theorem IsInteger.isNumber {w : List Char} {n : Int} (integer : IsInteger w n) : IsNumber w := by
  cases integer with
  | natural whole => simpa using IsNumber.positive whole (.inl rfl) (.inl rfl)
  | negative whole _ => simpa using IsNumber.negative whole (.inl rfl) (.inl rfl)

/-- The whole number that was read, if it was one. -/
def Number.integer? : Number → Option Int
  | .natural n => some n
  | .negative n => some (-n)
  | .real _ => none

theorem IntRange.member_eq_ok {range : IntRange} {n : Number} {i : Int} :
    range.member n = .ok i ↔ n.integer? = some i ∧ range.low ≤ i ∧ i ≤ range.high := by
  have whole (m : Int) : (if range.low ≤ m ∧ m ≤ range.high then Except.ok m
      else .error (.invalidValue m range.name)) = (.ok i : Except Problem Int) ↔
        some m = some i ∧ range.low ≤ i ∧ i ≤ range.high := by
    split
    · next inside =>
      rw [Except.ok.injEq, Option.some.injEq]
      exact ⟨fun same => ⟨same, same ▸ inside⟩, fun both => both.1⟩
    · next outside =>
      refine ⟨(fun same => nomatch same), fun both => absurd both.2 ?_⟩
      rw [← Option.some.inj both.1]
      exact outside
  cases n with
  | natural n => exact whole n
  | negative n => exact whole (-n)
  | real text => exact ⟨(fun same => nomatch same), fun both => nomatch both.1⟩

/-! ## Real numbers are no whole numbers -/

private theorem of_ite_eq_ok {ε α : Type} {c : Prop} [Decidable c] {e : ε} {x : Except ε α} {a : α}
    (taken : (if c then .error e else x) = .ok a) : x = .ok a := by
  split at taken
  · cases taken
  · exact taken

section Real

variable {isNegative : Bool} {significand : Nat} {exponent : Int} {text rest : List Char}
  {n : Number}

theorem realNumber_integer?
    (read : realNumber isNegative significand exponent text = .ok (n, rest)) :
    n.integer? = none := by
  unfold realNumber at read
  split at read
  · cases read
  · cases read
    rfl

theorem readExponent_integer?
    (read : readExponent isNegative significand exponent text = .ok (n, rest)) :
    n.integer? = none := by
  unfold readExponent at read
  dsimp only at read
  split at read
  · cases read
  · split at read
    · split at read
      · exact realNumber_integer? read
      · exact realNumber_integer? (of_ite_eq_ok read)
    · cases read

theorem readScale_integer?
    (read : readScale isNegative significand exponent text = .ok (n, rest)) :
    n.integer? = none := by
  unfold readScale at read
  split at read
  · exact readExponent_integer? read
  · exact readExponent_integer? read
  · exact realNumber_integer? read

theorem readFraction_integer?
    (read : readFraction isNegative significand exponent text = .ok (n, rest)) :
    n.integer? = none := by
  unfold readFraction at read
  dsimp only at read
  split at read
  · cases read
  · exact readScale_integer? read

end Real

/-! ## Reading whole numbers -/

/-- The value of digits after a sign, where it is a whole number. -/
def Signed (isNegative : Bool) (ds : List Char) (i : Int) : Prop :=
  if isNegative then 0 < numeralValue 0 ds ∧ i = -(numeralValue 0 ds) else i = numeralValue 0 ds

theorem wholeNumber_integer {isNegative : Bool} {ds text rest : List Char} {n : Number} {i : Int}
    (read : wholeNumber isNegative (numeralValue 0 ds) text = .ok (n, rest))
    (integer : n.integer? = some i) : rest = text ∧ Signed isNegative ds i := by
  unfold wholeNumber at read
  split at read
  · next positive =>
    cases read
    cases integer
    have positive : isNegative = false := by simpa using positive
    exact ⟨rfl, by simp [Signed, positive]⟩
  · next negative =>
    split at read
    · next small =>
      cases read
      cases integer
      have negative : isNegative = true := by simpa using negative
      have notZero : 0 < numeralValue 0 ds := small.1
      exact ⟨rfl, by simpa [Signed, negative] using notZero⟩
    · rw [realNumber_integer? read] at integer
      cases integer

theorem readAfterDigits_integer {isNegative : Bool} {ds text rest : List Char} {n : Number}
    {i : Int} (stop : NoDigit text) (read : readAfterDigits isNegative ds text = .ok (n, rest))
    (integer : n.integer? = some i) : rest = text ∧ Detached text ∧ Signed isNegative ds i := by
  unfold readAfterDigits at read
  dsimp only at read
  split at read
  · rw [readFraction_integer? read] at integer
    cases integer
  · rw [readExponent_integer? read] at integer
    cases integer
  · rw [readExponent_integer? read] at integer
    cases integer
  · next noPoint noSmall noLarge =>
    -- Only here the number can stay whole, and only if no digit was left over.
    split at read
    · next none =>
      have all : absorb maxSignificand 0 ds = ((absorb maxSignificand 0 ds).1, []) :=
        Prod.ext rfl (List.isEmpty_iff.1 none)
      rw [eq_numeralValue_of_absorb ds 0 _ all] at read
      obtain ⟨same, signed⟩ := wholeNumber_integer read integer
      refine ⟨same, ?_, signed⟩
      intro c head
      obtain ⟨more, rfl⟩ := List.head?_eq_some_iff.1 head
      exact ⟨stop c rfl, fun same => noPoint more (by rw [same]),
        fun same => noSmall more (by rw [same]), fun same => noLarge more (by rw [same])⟩
    · rw [realNumber_integer? read] at integer
      cases integer

theorem readAfterDigits_whole {ds rest : List Char} (isNegative : Bool) (detached : Detached rest)
    (fits : numeralValue 0 ds ≤ maxSignificand) :
    readAfterDigits isNegative ds rest = wholeNumber isNegative (numeralValue 0 ds) rest := by
  unfold readAfterDigits
  dsimp only
  split
  · exact absurd rfl (detached '.' rfl).2.1
  · exact absurd rfl (detached 'e' rfl).2.2.1
  · exact absurd rfl (detached 'E' rfl).2.2.2
  · rw [absorb_of_le ds 0 fits]
    simp only [List.isEmpty_nil, if_true]

theorem readNumber_whole {ds rest : List Char} (isNegative : Bool) (whole : Whole ds)
    (stop : NoDigit rest) :
    readNumber isNegative (ds ++ rest) = readAfterDigits isNegative ds rest := by
  rcases whole with rfl | ⟨⟨nonempty, digits⟩, notZero⟩
  · cases rest with
    | nil => simp [readNumber]
    | cons c rest => simp [readNumber, stop c rfl]
  · obtain ⟨d, ds, rfl⟩ := List.exists_cons_of_ne_nil nonempty
    have others : ∀ c ∈ ds, isDigit c = true := fun c isIn => digits c (List.mem_cons_of_mem d isIn)
    have notZero : d ≠ '0' := fun same => notZero (by rw [same]; rfl)
    simp [readNumber, notZero, digits d List.mem_cons_self, stop.dropWhile_append others,
      stop.takeWhile_append others]

/-- Whatever is read as a number begins with digits that do not go on after them. -/
theorem readNumber_split {isNegative : Bool} {text : List Char} {x : Number × List Char}
    (read : readNumber isNegative text = .ok x) :
    ∃ ds rest, text = ds ++ rest ∧ Whole ds ∧ NoDigit rest := by
  unfold readNumber at read
  split at read
  · cases read
  · next c more =>
    split at read
    · next isZero =>
      refine ⟨['0'], more, by rw [isZero]; rfl, .inl rfl, ?_⟩
      intro d head
      obtain ⟨rest, rfl⟩ := List.head?_eq_some_iff.1 head
      dsimp only at read
      split at read
      · cases read
      · next notDigit => simpa using notDigit
    · next notZero =>
      split at read
      · next digit =>
        refine ⟨c :: more.takeWhile isDigit, more.dropWhile isDigit, ?_, .inr ⟨⟨?_, ?_⟩, ?_⟩,
          noDigit_dropWhile more⟩
        · rw [List.cons_append, List.takeWhile_append_dropWhile]
        · exact List.cons_ne_nil _ _
        · intro d isIn
          rcases List.mem_cons.1 isIn with rfl | later
          · exact digit
          · exact List.all_eq_true.1 List.all_takeWhile d later
        · exact fun head => notZero (Option.some.inj head)
      · cases read

/-- **What is read as a whole number is one, and has the value of its digits.** -/
theorem readNumber_integer {isNegative : Bool} {text rest : List Char} {n : Number} {i : Int}
    (read : readNumber isNegative text = .ok (n, rest)) (integer : n.integer? = some i) :
    ∃ ds, text = ds ++ rest ∧ Whole ds ∧ Signed isNegative ds i ∧ Detached rest := by
  obtain ⟨ds, after, rfl, whole, stop⟩ := readNumber_split read
  rw [readNumber_whole isNegative whole stop] at read
  obtain ⟨rfl, detached, signed⟩ := readAfterDigits_integer stop read integer
  exact ⟨ds, rfl, whole, signed, detached⟩

/-- A range within what stays exact on reading. -/
structure IntRange.Exact (range : IntRange) : Prop where
  low : -0x8000_0000_0000_0000 ≤ range.low
  high : range.high ≤ maxSignificand

theorem int32Range_exact : int32Range.Exact := ⟨by decide, by decide⟩

theorem uint32Range_exact : uint32Range.Exact := ⟨by decide, by decide⟩

theorem uint64Range_exact : uint64Range.Exact := ⟨by decide, by decide⟩

/-- A whole number of an exact range stays a whole number. -/
theorem readNumber_append (isNegative : Bool) {ds rest : List Char} {i : Int} (whole : Whole ds)
    (signed : Signed isNegative ds i) (low : -0x8000_0000_0000_0000 ≤ i) (high : i ≤ maxSignificand)
    (detached : Detached rest) :
    ∃ n, readNumber isNegative (ds ++ rest) = .ok (n, rest) ∧ n.integer? = some i := by
  rw [readNumber_whole isNegative whole detached.noDigit]
  cases isNegative with
  | false =>
    have value : i = numeralValue 0 ds := signed
    rw [readAfterDigits_whole false detached (by omega)]
    exact ⟨.natural (numeralValue 0 ds), rfl, by rw [value]; rfl⟩
  | true =>
    obtain ⟨positive, value⟩ : 0 < numeralValue 0 ds ∧ i = -(numeralValue 0 ds) := signed
    have small : numeralValue 0 ds ≤ 0x8000_0000_0000_0000 := by omega
    rw [readAfterDigits_whole true detached (Nat.le_trans small (by decide))]
    refine ⟨.negative (numeralValue 0 ds), ?_, by rw [value]; rfl⟩
    simp only [wholeNumber, Bool.not_true, Bool.false_eq_true, if_false]
    rw [if_pos ⟨positive, small⟩]

/-! ## Writing whole numbers -/

theorem digits_decimal (n : Nat) : Digits (Text.decimal n) := by
  induction n using Nat.strongRecOn with
  | _ n ih =>
    rw [Text.decimal]
    split
    · next small =>
      refine ⟨List.cons_ne_nil _ _, fun c isIn => ?_⟩
      rw [List.mem_singleton.1 isIn]
      exact Text.isDigit_digitChar small
    · next large =>
      obtain ⟨nonempty, digits⟩ := ih (n / 10) (by omega)
      refine ⟨by simp, fun c isIn => ?_⟩
      rcases List.mem_append.1 isIn with earlier | last
      · exact digits c earlier
      · rw [List.mem_singleton.1 last]
        exact Text.isDigit_digitChar (Nat.mod_lt _ (by omega))

theorem decimal_head {n : Nat} (positive : 0 < n) : (Text.decimal n).head? ≠ some '0' := by
  induction n using Nat.strongRecOn with
  | _ n ih =>
    rw [Text.decimal]
    split
    · next small =>
      intro head
      have zero : Text.digitValue (Text.digitChar n) = 0 := by
        rw [Option.some.inj head]
        rfl
      rw [Text.digitValue_digitChar small] at zero
      omega
    · next large =>
      rw [List.head?_append, Option.or_of_isSome (by simpa using (digits_decimal (n / 10)).1)]
      exact ih (n / 10) (by omega) (by omega)

theorem whole_decimal (n : Nat) : Whole (Text.decimal n) := by
  rcases Nat.eq_zero_or_pos n with rfl | positive
  · left
    rw [Text.decimal]
    rfl
  · exact .inr ⟨digits_decimal n, decimal_head positive⟩

/-- **What is written for a whole number is one, with this value.** -/
theorem isInteger_decimalInt (n : Int) : IsInteger (Text.decimalInt n) n := by
  cases n with
  | ofNat n =>
    have integer := IsInteger.natural (whole_decimal n)
    rwa [Text.numeralValue_decimal] at integer
  | negSucc n =>
    have value := Text.numeralValue_decimal (n + 1)
    have integer := IsInteger.negative (whole_decimal (n + 1)) (by rw [value]; omega)
    rwa [value] at integer

end Duet.Json
