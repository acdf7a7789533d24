import Duet.Proofs.Json.Recognition

/-!
# Numbers in their pieces

A number is a sign or none, the digits before the point, a fraction or none, and an exponent or
none. `Numeral` keeps the four pieces apart, each in order by itself, and every number is the text
of one (`Numeral.isNumber_iff`).

**Whether a number is a whole one is seen from its pieces** (`Numeral.isInteger_text_iff`): it has
no fraction and no exponent, and it is not a zero with a minus sign. That is also all that keeps a
number of any length from being read for a range it lies in (`Numeral.readWhole_text`).
-/

namespace Duet.Json

open Text (numeralValue le_numeralValue digitValue isDigit)

/-- A number as it is written, in its four pieces. -/
structure Numeral where
  isNegative : Bool
  whole : List Char
  fraction : List Char
  exponent : List Char
  isWhole : Whole whole
  isFraction : Fraction fraction
  isExponent : Exponent exponent

namespace Numeral

/-- The text of a number. -/
def text (n : Numeral) : List Char :=
  (if n.isNegative then ['-'] else []) ++ n.whole ++ n.fraction ++ n.exponent

/-- The whole number that is written, where it is one: without fraction and exponent, and not a
zero with a minus sign. -/
def integer? (n : Numeral) : Option Int :=
  if n.fraction = [] ∧ n.exponent = [] ∧ ¬ (n.isNegative = true ∧ n.whole = ['0']) then
    some (if n.isNegative then -(numeralValue 0 n.whole) else numeralValue 0 n.whole)
  else none

/-- Every number is written in such pieces. -/
theorem isNumber_iff {w : List Char} : IsNumber w ↔ ∃ n : Numeral, n.text = w := by
  constructor
  · intro number
    cases number with
    | positive whole fraction exponent =>
      exact ⟨⟨false, _, _, _, whole, fraction, exponent⟩, rfl⟩
    | negative whole fraction exponent =>
      exact ⟨⟨true, _, _, _, whole, fraction, exponent⟩, rfl⟩
  · rintro ⟨⟨isNegative, ds, f, x, whole, fraction, exponent⟩, rfl⟩
    cases isNegative with
    | false => exact .positive whole fraction exponent
    | true => exact .negative whole fraction exponent

theorem isNumber (n : Numeral) : IsNumber n.text :=
  isNumber_iff.2 ⟨n, rfl⟩

end Numeral

theorem Fraction.eq_nil {f : List Char} (fraction : Fraction f)
    (digits : ∀ c ∈ f, isDigit c = true) : f = [] := by
  rcases fraction with rfl | ⟨ds, _, rfl⟩
  · rfl
  · exact absurd (digits '.' List.mem_cons_self) (by decide)

theorem Exponent.eq_nil {x : List Char} (exponent : Exponent x)
    (digits : ∀ c ∈ x, isDigit c = true) : x = [] := by
  rcases exponent with rfl | ⟨letter, sign, ds, isLetter, _, _, rfl⟩
  · rfl
  · have digit := digits letter List.mem_cons_self
    rcases isLetter with rfl | rfl <;> exact absurd digit (by decide)

/-- Among the digits before a point only a single zero has no value. -/
theorem Whole.numeralValue_pos_iff {ds : List Char} (whole : Whole ds) :
    0 < numeralValue 0 ds ↔ ds ≠ ['0'] := by
  constructor
  · rintro positive rfl
    exact absurd positive (by decide)
  · intro notZero
    rcases whole with rfl | ⟨⟨nonempty, digits⟩, head⟩
    · exact absurd rfl notZero
    · obtain ⟨d, ds, rfl⟩ := List.exists_cons_of_ne_nil nonempty
      have digit : '0' ≤ d ∧ d ≤ '9' := by simpa [isDigit] using digits d List.mem_cons_self
      have notZero : d ≠ '0' := by
        rintro rfl
        exact head rfl
      have first : 0 < digitValue d := by
        have lower : '0'.toNat ≤ d.toNat := digit.1
        have other : d.toNat ≠ '0'.toNat := fun same => notZero (Char.toNat_inj.1 same)
        rw [digitValue]
        omega
      have rest : 0 * 10 + digitValue d ≤ numeralValue 0 (d :: ds) := le_numeralValue _ ds
      omega

namespace Numeral

/-- A number whose pieces are all digits has no other pieces than the whole one. -/
theorem pieces_of_digits (n : Numeral)
    (digits : ∀ c ∈ n.whole ++ n.fraction ++ n.exponent, isDigit c = true) :
    n.fraction = [] ∧ n.exponent = [] := by
  refine ⟨n.isFraction.eq_nil ?_, n.isExponent.eq_nil ?_⟩
  · intro c isIn
    exact digits c (List.mem_append_left _ (List.mem_append_right _ isIn))
  · intro c isIn
    exact digits c (List.mem_append_right _ isIn)

/-- **The whole numbers among the numbers are told by their pieces.** -/
theorem isInteger_text_iff (n : Numeral) (i : Int) : IsInteger n.text i ↔ n.integer? = some i := by
  have zero := n.isWhole.numeralValue_pos_iff
  constructor
  · intro integer
    generalize isText : n.text = w at integer
    cases integer with
    | natural whole =>
      cases sign : n.isNegative with
      | true =>
        -- The sign would be one of the digits.
        have minus : '-' ∈ w := by
          rw [← isText]
          simp [text, sign]
        exact absurd (whole.digits '-' minus) (by decide)
      | false =>
        have same : n.whole ++ n.fraction ++ n.exponent = w := by
          simpa [text, sign] using isText
        obtain ⟨fraction, exponent⟩ := n.pieces_of_digits (by rw [same]; exact whole.digits)
        have same : n.whole = w := by simpa [fraction, exponent] using same
        simp [integer?, fraction, exponent, sign, same]
    | @negative ds whole notZero =>
      cases sign : n.isNegative with
      | false =>
        obtain ⟨c, more, isWhole, digit⟩ := n.isWhole.head
        have first : c = '-' ∧ more ++ (n.fraction ++ n.exponent) = ds := by
          simpa [text, sign, isWhole] using isText
        rw [first.1] at digit
        exact absurd digit (by decide)
      | true =>
        have same : n.whole ++ n.fraction ++ n.exponent = ds := by
          simpa [text, sign] using isText
        obtain ⟨fraction, exponent⟩ := n.pieces_of_digits (by rw [same]; exact whole.digits)
        have same : n.whole = ds := by simpa [fraction, exponent] using same
        rw [← same] at notZero
        simp [integer?, fraction, exponent, sign, zero.1 notZero, ← same]
  · intro written
    unfold integer? at written
    split at written
    · next plain =>
      obtain ⟨fraction, exponent, notNegativeZero⟩ := plain
      cases sign : n.isNegative with
      | false =>
        have isText : n.text = n.whole := by simp [text, fraction, exponent, sign]
        have value : (numeralValue 0 n.whole : Int) = i := by simpa [sign] using written
        rw [isText, ← value]
        exact .natural n.isWhole
      | true =>
        have isText : n.text = '-' :: n.whole := by simp [text, fraction, exponent, sign]
        have value : -(numeralValue 0 n.whole : Int) = i := by simpa [sign] using written
        have notZero : n.whole ≠ ['0'] := fun isZero => notNegativeZero ⟨sign, isZero⟩
        rw [isText, ← value]
        exact .negative n.isWhole (zero.2 notZero)
    · cases written

/-- What a number is read as where a whole number of a range is wanted. -/
theorem readWhole_text (n : Numeral) {range : IntRange} (fits : range.Exact) {i : Int} :
    readWhole (readInteger range) n.text = .ok i ↔
      n.integer? = some i ∧ range.low ≤ i ∧ i ≤ range.high := by
  rw [(readInteger_recognizes fits).readWhole_value (.number n.isNumber), IntRange.Means,
    isInteger_text_iff]

end Numeral

end Duet.Json
