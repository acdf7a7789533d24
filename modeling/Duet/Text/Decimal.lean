/-!
# Decimal numerals

Numbers are written in base ten without leading zeros and read back digit by digit. Reading
an unsigned number allows one leading `+`, any number of leading zeros and nothing else, and
names the first thing that goes wrong from left to right.

**The value of a written numeral is the number it was written for.** (`numeralValue_decimal`)

What this does not establish: reading accepts more spellings than writing produces, so the two
are not inverse in the other direction.
-/

namespace Duet.Text

/-! ## Writing -/

/-- The character of a digit below ten. -/
def digitChar (d : Nat) : Char :=
  Char.ofNat ('0'.toNat + d)

/-- The numeral of `n`, most significant digit first. -/
def decimal (n : Nat) : List Char :=
  if n < 10 then [digitChar n] else decimal (n / 10) ++ [digitChar (n % 10)]
termination_by n

/-- The numeral of an integer; only negative ones carry a sign. -/
def decimalInt : Int → List Char
  | .ofNat n => decimal n
  | .negSucc n => '-' :: decimal (n + 1)

/-- The numeral of `n` as a string. -/
def natText (n : Nat) : String :=
  String.ofList (decimal n)

/-- The numeral of an integer as a string. -/
def intText (n : Int) : String :=
  String.ofList (decimalInt n)

/-- The last `width` digits of `n`, filled with zeros on the left. -/
def fixedDigits : (width : Nat) → (n : Nat) → List Char
  | 0, _ => []
  | width + 1, n => fixedDigits width (n / 10) ++ [digitChar (n % 10)]

/-! ## Digits -/

/-- Whether a character is one of the ten ASCII digits. -/
def isDigit (c : Char) : Bool :=
  '0' ≤ c && c ≤ '9'

/-- What a digit stands for; meaningful for digits only. -/
def digitValue (c : Char) : Nat :=
  c.toNat - '0'.toNat

/-- The number a row of digits stands for, continuing from `n`. -/
def numeralValue (n : Nat) (ds : List Char) : Nat :=
  ds.foldl (fun acc c => acc * 10 + digitValue c) n

theorem digitValue_digitChar {d : Nat} (h : d < 10) : digitValue (digitChar d) = d := by
  have cases : d = 0 ∨ d = 1 ∨ d = 2 ∨ d = 3 ∨ d = 4 ∨ d = 5 ∨ d = 6 ∨ d = 7 ∨ d = 8 ∨ d = 9 := by
    omega
  rcases cases with h | h | h | h | h | h | h | h | h | h <;> subst h <;> rfl

theorem isDigit_digitChar {d : Nat} (h : d < 10) : isDigit (digitChar d) = true := by
  have cases : d = 0 ∨ d = 1 ∨ d = 2 ∨ d = 3 ∨ d = 4 ∨ d = 5 ∨ d = 6 ∨ d = 7 ∨ d = 8 ∨ d = 9 := by
    omega
  rcases cases with h | h | h | h | h | h | h | h | h | h <;> subst h <;> rfl

/-- Digits only ever add to the number they continue. -/
theorem le_numeralValue (n : Nat) (ds : List Char) : n ≤ numeralValue n ds := by
  induction ds generalizing n with
  | nil => exact Nat.le_refl n
  | cons d ds ih => exact Nat.le_trans (by omega) (ih (n * 10 + digitValue d))

/-- Reading a written numeral digit by digit gives its number back. -/
theorem numeralValue_decimal (n : Nat) : numeralValue 0 (decimal n) = n := by
  induction n using Nat.strongRecOn with
  | _ n ih =>
    rw [decimal]
    split
    · next h => simp [numeralValue, digitValue_digitChar h]
    · next h =>
      have step : numeralValue 0 (decimal (n / 10)) = n / 10 := ih (n / 10) (by omega)
      simp only [numeralValue] at step ⊢
      rw [List.foldl_append, step]
      simp only [List.foldl_cons, List.foldl_nil]
      rw [digitValue_digitChar (Nat.mod_lt _ (by omega))]
      omega

/-! ## Reading -/

/-- Why a text is not a number of the wanted range. -/
inductive NumeralError where
  | empty
  | invalidDigit
  | tooLarge
  | zero
  deriving DecidableEq, Repr

/-- The wording of a numeral error. -/
def NumeralError.message : NumeralError → String
  | .empty => "cannot parse integer from empty string"
  | .invalidDigit => "invalid digit found in string"
  | .tooLarge => "number too large to fit in target type"
  | .zero => "number would be zero for non-zero type"

/-- Reads digits up to the end, staying at or below `limit`. -/
def readDigits (limit : Nat) (n : Nat) : List Char → Except NumeralError Nat
  | [] => .ok n
  | c :: cs =>
    if isDigit c then
      let next := n * 10 + digitValue c
      if next ≤ limit then readDigits limit next cs else .error .tooLarge
    else .error .invalidDigit

/-- Reads an unsigned number of at most `limit`, with an optional `+` in front. -/
def readUnsigned (limit : Nat) : List Char → Except NumeralError Nat
  | [] => .error .empty
  | ['+'] => .error .invalidDigit
  | '+' :: cs => readDigits limit 0 cs
  | cs => readDigits limit 0 cs

/-- Reads an unsigned number from one to `limit`. -/
def readPositive (limit : Nat) (cs : List Char) : Except NumeralError Nat := do
  let n ← readUnsigned limit cs
  if n = 0 then .error .zero else .ok n

end Duet.Text
