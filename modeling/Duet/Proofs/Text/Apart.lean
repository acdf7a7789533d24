import Duet.Proofs.Json.Numbers
import Mathlib.Algebra.GroupWithZero.Nat

/-!
# Texts that come apart in one way only

A text that was put together from parts can be taken apart again if its characters tell where one
part ends: at the first character of another class, or at the last separator. Numerals are such
parts.

**The parts of two equal texts are equal if each ends where its class of characters does**
(`append_inj_of_span`).
-/

namespace Duet.Text

section Parts

variable {α : Type} {first second first' second' : List α}

/-- Two texts that are the same have the same parts, if the first parts consist of characters of
one class and the second ones do not start with one of it. -/
theorem append_inj_of_span (class_ : α → Prop) (same : first ++ second = first' ++ second')
    (all : ∀ c ∈ first, class_ c) (all' : ∀ c ∈ first', class_ c)
    (stop : ∀ c, second.head? = some c → ¬ class_ c)
    (stop' : ∀ c, second'.head? = some c → ¬ class_ c) :
    first = first' ∧ second = second' := by
  induction first generalizing first' with
  | nil =>
    cases first' with
    | nil => exact ⟨rfl, same⟩
    | cons c rest =>
      have starts : second = c :: (rest ++ second') := same
      exact absurd (all' c List.mem_cons_self) (stop c (by rw [starts]; rfl))
  | cons c rest ih =>
    cases first' with
    | nil =>
      have starts : c :: (rest ++ second) = second' := same
      exact absurd (all c List.mem_cons_self) (stop' c (by rw [← starts]; rfl))
    | cons c' rest' =>
      obtain ⟨rfl, tails⟩ : c = c' ∧ rest ++ second = rest' ++ second' := List.cons.inj same
      obtain ⟨rfl, seconds⟩ := ih tails (fun d isRest => all d (List.mem_cons_of_mem c isRest))
        (fun d isRest => all' d (List.mem_cons_of_mem c isRest))
      exact ⟨rfl, seconds⟩

/-- Two texts that are the same have the same parts before and after their last separator. -/
theorem append_cons_inj_of_last {separator : α}
    (same : first ++ separator :: second = first' ++ separator :: second')
    (last : separator ∉ second) (last' : separator ∉ second') :
    first = first' ∧ second = second' := by
  have reversed : second.reverse ++ separator :: first.reverse
      = second'.reverse ++ separator :: first'.reverse := by
    simpa [List.append_assoc] using congrArg List.reverse same
  have outside {part : List α} (absent : separator ∉ part) (c : α) (isIn : c ∈ part.reverse) :
      c ≠ separator := by
    rintro rfl
    exact absent (List.mem_reverse.1 isIn)
  have stop (part : List α) (c : α) (isHead : (separator :: part).head? = some c) :
      ¬ c ≠ separator :=
    not_not_intro (Option.some.inj isHead).symm
  obtain ⟨isSecond, isFirst⟩ := append_inj_of_span (· ≠ separator) reversed
    (outside last) (outside last') (stop _) (stop _)
  exact ⟨List.reverse_inj.1 (List.cons.inj isFirst).2, List.reverse_inj.1 isSecond⟩

end Parts

/-! ## Numerals -/

theorem decimal_injective {m n : Nat} (same : decimal m = decimal n) : m = n := by
  rw [← numeralValue_decimal m, same, numeralValue_decimal]

theorem isDigit_of_mem_decimal {n : Nat} {c : Char} (isIn : c ∈ decimal n) : isDigit c = true :=
  (Json.digits_decimal n).2 c isIn

/-- A numeral in front of something else than a digit can be told from it. -/
theorem decimal_append_inj {m n : Nat} {rest rest' : List Char}
    (same : decimal m ++ rest = decimal n ++ rest') (stop : Json.NoDigit rest)
    (stop' : Json.NoDigit rest') : m = n ∧ rest = rest' := by
  obtain ⟨numerals, rests⟩ := append_inj_of_span (isDigit · = true) same
    (fun c isIn => isDigit_of_mem_decimal isIn) (fun c isIn => isDigit_of_mem_decimal isIn)
    (fun c isHead => by simp [stop c isHead]) (fun c isHead => by simp [stop' c isHead])
  exact ⟨decimal_injective numerals, rests⟩

theorem length_fixedDigits (width n : Nat) : (fixedDigits width n).length = width := by
  induction width generalizing n with
  | zero => rfl
  | succ width ih => simp [fixedDigits, ih]

theorem isDigit_of_mem_fixedDigits {width n : Nat} {c : Char} (isIn : c ∈ fixedDigits width n) :
    isDigit c = true := by
  induction width generalizing n with
  | zero => cases isIn
  | succ width ih =>
    rcases List.mem_append.1 isIn with earlier | last
    · exact ih earlier
    · rw [List.mem_singleton.1 last]
      exact isDigit_digitChar (Nat.mod_lt n (by omega))

/-- Digits of a fixed width tell a number that fits. -/
theorem fixedDigits_injective {width m n : Nat} (fits : m < 10 ^ width) (fits' : n < 10 ^ width)
    (same : fixedDigits width m = fixedDigits width n) : m = n := by
  induction width generalizing m n with
  | zero =>
    rw [Nat.pow_zero] at fits fits'
    omega
  | succ width ih =>
    obtain ⟨earlier, last⟩ := List.append_inj' same rfl
    have remainders : m % 10 = n % 10 := by
      rw [← digitValue_digitChar (Nat.mod_lt m (by omega)), List.singleton_inj.1 last,
        digitValue_digitChar (Nat.mod_lt n (by omega))]
    have quotients : m / 10 = n / 10 :=
      ih (Nat.div_lt_of_lt_mul (by rwa [Nat.mul_comm, ← Nat.pow_succ]))
        (Nat.div_lt_of_lt_mul (by rwa [Nat.mul_comm, ← Nat.pow_succ])) earlier
    omega

end Duet.Text
