import Duet.Text.Decimal

/-!
# The shortest decimal of a binary number

A floating-point number is a whole mantissa times a power of two, and every real in an interval
around it rounds to it. The interval's ends belong to it when the mantissa is even. Among the
decimals in the interval the one with the fewest digits is taken, and of two such the nearer,
a tie going to the even digit.

**All comparisons are exact**, in natural numbers over a common denominator.

What this does not establish: nothing here is said about the arithmetic that produced the
number, only about how it is written.
-/

namespace Duet.Text

/-! ## The interval of a number -/

/-- A positive binary number with the interval of reals that round to it, all three over the
common denominator `den`. -/
structure Binary where
  value : Nat
  low : Nat
  high : Nat
  den : Nat
  closed : Bool
  deriving DecidableEq, Repr

/-- The number with the given mantissa and exponent field of a 64-bit float, positive and
finite. -/
def Binary.ofFields (field fraction : Nat) : Binary :=
  let mantissa := if field = 0 then fraction else fraction + 1 <<< 52
  let power : Int := (if field = 0 then 1 else field) - 1075 - 2
  let below := if fraction = 0 ∧ 1 < field then 1 else 2
  let scale := 1 <<< power.toNat
  { value := 4 * mantissa * scale
    low := (4 * mantissa - below) * scale
    high := (4 * mantissa + 2) * scale
    den := 1 <<< (-power).toNat
    closed := mantissa % 2 = 0 }

/-- Whether the fraction `num / den` lies in the interval. -/
def Binary.contains (b : Binary) (num den : Nat) : Bool :=
  if b.closed then b.low * den ≤ num * b.den && num * b.den ≤ b.high * den
  else b.low * den < num * b.den && num * b.den < b.high * den

/-! ## Decimals -/

/-- The decimal `digits · 10 ^ exponent`. -/
structure Scientific where
  digits : Nat
  exponent : Int
  deriving DecidableEq, Repr

/-- The number of digits of a numeral. -/
def digitCount (n : Nat) : Nat :=
  (decimal n).length

/-- The exponent of the leading digit: the largest power of ten that is not above the number. -/
def Binary.magnitude (b : Binary) : Int :=
  let guess : Int := (digitCount b.value : Int) - digitCount b.den
  if b.den * Nat.pow 10 guess.toNat ≤ b.value * Nat.pow 10 (-guess).toNat then guess
  else guess - 1

/-- The best member of the interval on the grid of multiples of `10 ^ exponent`, if the grid
meets it next to the number. -/
def Binary.onGrid (b : Binary) (exponent : Int) : Option Scientific :=
  let up := Nat.pow 10 exponent.toNat
  let down := Nat.pow 10 (-exponent).toNat
  let num := b.value * down
  let den := b.den * up
  let floor := num / den
  let hit (n : Nat) := b.contains (n * up) down
  match hit floor, hit (floor + 1) with
  | false, false => none
  | true, false => some ⟨floor, exponent⟩
  | false, true => some ⟨floor + 1, exponent⟩
  | true, true =>
    let twice := 2 * (num % den)
    if twice < den ∨ (twice = den ∧ floor % 2 = 0) then some ⟨floor, exponent⟩
    else some ⟨floor + 1, exponent⟩

/-- Tries ever finer grids, at most `tries` of them. -/
def Binary.search (b : Binary) (magnitude : Int) : (tries count : Nat) → Option Scientific
  | 0, _ => none
  | tries + 1, count =>
    match b.onGrid (magnitude - count) with
    | some s => some s
    | none => b.search magnitude tries (count + 1)

/-- Moves trailing zeros of the digits into the exponent, at most `tries` of them. -/
def Scientific.trim : (tries : Nat) → Scientific → Scientific
  | 0, s => s
  | tries + 1, s =>
    if s.digits % 10 = 0 ∧ s.digits ≠ 0 then trim tries ⟨s.digits / 10, s.exponent + 1⟩ else s

/-- The shortest decimal that rounds to the number. -/
def Binary.shortest (b : Binary) : Scientific :=
  let found := (b.search b.magnitude 18 0).getD ⟨0, 0⟩
  found.trim (digitCount found.digits)

/-! ## Writing -/

/-- Positional notation for leading exponents from -5 to 15, always with a fraction; otherwise
one digit, the rest after a point, and a signed exponent. -/
def Scientific.write (s : Scientific) : List Char :=
  let ds := decimal s.digits
  let leading : Int := s.exponent + ds.length - 1
  if -5 ≤ leading ∧ leading ≤ 15 then
    if 0 ≤ s.exponent then ds ++ List.replicate s.exponent.toNat '0' ++ ['.', '0']
    else
      let places := (-s.exponent).toNat
      if ds.length ≤ places then
        ['0', '.'] ++ List.replicate (places - ds.length) '0' ++ ds
      else ds.take (ds.length - places) ++ ['.'] ++ ds.drop (ds.length - places)
  else
    let point := if 1 < ds.length then ['.'] else []
    let sign := if leading < 0 then '-' else '+'
    ds.take 1 ++ point ++ ds.drop 1 ++ ['e', sign] ++ decimal leading.natAbs

/-- The shortest text that reads back as the given finite number. -/
def writeFloat (x : Float) : List Char :=
  let bits := x.toBits.toNat
  let sign := if 1 <<< 63 ≤ bits then ['-'] else []
  let field := bits >>> 52 % 0x800
  let fraction := bits % (1 <<< 52)
  if field = 0 ∧ fraction = 0 then sign ++ ['0', '.', '0']
  else sign ++ (Binary.ofFields field fraction).shortest.write

end Duet.Text
