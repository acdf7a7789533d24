import Duet.Json.Lexeme
import Duet.Text.Shortest

/-!
# Numbers in JSON

A number is read digit by digit into a significand of 64 bits. A whole number that fits stays
exact; everything else, a number with a fraction or an exponent, one that does not fit, and a
negative zero, is a real number and kept as the text of its nearest machine number.

**Digits that no longer fit raise the exponent before the point and are dropped after it.**
Scaling by a power of ten is one machine multiplication or division, so the result may differ
in its last bit from the nearest one; a result beyond all machine numbers is a failure.
-/

namespace Duet.Json

open Text (isDigit digitValue)

/-- A number as JSON tells them apart. -/
inductive Number where
  | natural (n : Nat)
  | negative (n : Nat)
  | real (text : List Char)
  deriving DecidableEq, Repr

/-- How a number is named where it is not wanted. -/
def Number.found : Number → Found
  | .natural n => .integer n
  | .negative n => .integer (-n)
  | .real text => .real text

/-! ## Significands -/

/-- The largest significand. -/
def maxSignificand : Nat := 0xFFFF_FFFF_FFFF_FFFF

/-- The largest exponent that is read. -/
def maxExponent : Nat := 0x7FFF_FFFF

/-- Appends digits to a number as long as it stays at or below `limit`; gives back the digits
that were left. -/
def absorb (limit n : Nat) : List Char → Nat × List Char
  | [] => (n, [])
  | d :: ds =>
    let next := n * 10 + digitValue d
    if next ≤ limit then absorb limit next ds else (n, d :: ds)

/-! ## Scaling -/

/-- A power of ten as a machine number. -/
def powerOfTen (n : Nat) : Float :=
  Float.ofScientific 1 false n

/-- The greatest power of ten among the machine numbers. -/
def maxPower : Nat := 308

/-- Multiplies by `10 ^ exponent`, in steps if the power itself is out of range; nothing if the
result is. -/
def scale : (steps : Nat) → Float → (exponent : Int) → Option Float
  | 0, x, _ => some x
  | steps + 1, x, exponent =>
    if exponent.natAbs ≤ maxPower then
      if 0 ≤ exponent then
        let y := x * powerOfTen exponent.toNat
        if y.isInf then none else some y
      else some (x / powerOfTen exponent.natAbs)
    else if x == 0.0 then some x
    else if 0 ≤ exponent then none
    else scale steps (x / powerOfTen maxPower) (exponent + maxPower)

/-- The machine number `significand · 10 ^ exponent`. -/
def machineNumber? (significand : Nat) (exponent : Int) : Option Float :=
  scale (exponent.natAbs / maxPower + 1) (UInt64.ofNat significand).toFloat exponent

/-- A real number with its sign, or the failure of one that is too large. -/
def realNumber (isNegative : Bool) (significand : Nat) (exponent : Int) (rest : List Char) :
    Except Failure (Number × List Char) :=
  match machineNumber? significand exponent with
  | none => .error (.here .numberOutOfRange rest)
  | some x => .ok (.real (Text.writeFloat (if isNegative then -x else x)), rest)

/-! ## Reading -/

/-- Reads the digits of an exponent whose first digit is there. Returns nothing with the text
after the digit that made it too large. -/
def readExponentDigits (n : Nat) : List Char → Option Nat × List Char
  | [] => (some n, [])
  | d :: rest =>
    if isDigit d then
      let next := n * 10 + digitValue d
      if next ≤ maxExponent then readExponentDigits next rest else (none, rest)
    else (some n, d :: rest)

/-- Reads an exponent after its letter and scales the significand by it. -/
def readExponent (isNegative : Bool) (significand : Nat) (exponent : Int) (text : List Char) :
    Except Failure (Number × List Char) :=
  let (down, text) := match text with
    | '+' :: rest => (false, rest)
    | '-' :: rest => (true, rest)
    | _ => (false, text)
  match text with
  | [] => .error (.here .endInValue [])
  | d :: _ =>
    if isDigit d then
      match readExponentDigits 0 text with
      | (some n, rest) =>
        realNumber isNegative significand (if down then exponent - n else exponent + n) rest
      | (none, rest) =>
        if significand ≠ 0 ∧ ¬down then .error (.here .numberOutOfRange rest)
        else realNumber isNegative 0 0 (rest.dropWhile isDigit)
    else .error (.after 1 .invalidNumber text)

/-- Reads what may follow the digits of a real number: an exponent or nothing. -/
def readScale (isNegative : Bool) (significand : Nat) (exponent : Int) (text : List Char) :
    Except Failure (Number × List Char) :=
  match text with
  | 'e' :: rest | 'E' :: rest => readExponent isNegative significand exponent rest
  | _ => realNumber isNegative significand exponent text

/-- Reads a fraction after its point. -/
def readFraction (isNegative : Bool) (significand : Nat) (exponent : Int) (text : List Char) :
    Except Failure (Number × List Char) :=
  let digits := text.takeWhile isDigit
  let rest := text.dropWhile isDigit
  if digits.isEmpty then
    .error (.peek (if rest.isEmpty then .endInValue else .invalidNumber) rest)
  else
    let (significand, dropped) := absorb maxSignificand significand digits
    let taken : Nat := digits.length - dropped.length
    readScale isNegative significand (exponent - taken) rest

/-- A whole number that fits: positive, negative, or a negative one that only a real number can
hold. -/
def wholeNumber (isNegative : Bool) (significand : Nat) (rest : List Char) :
    Except Failure (Number × List Char) :=
  if !isNegative then .ok (.natural significand, rest)
  else if 1 ≤ significand ∧ significand ≤ 0x8000_0000_0000_0000 then .ok (.negative significand, rest)
  else realNumber true significand 0 rest

/-- Reads what follows the digits before the point. -/
def readAfterDigits (isNegative : Bool) (digits rest : List Char) :
    Except Failure (Number × List Char) :=
  let (significand, dropped) := absorb maxSignificand 0 digits
  match rest with
  | '.' :: rest => readFraction isNegative significand dropped.length rest
  | 'e' :: rest | 'E' :: rest => readExponent isNegative significand dropped.length rest
  | _ =>
    if dropped.isEmpty then wholeNumber isNegative significand rest
    else realNumber isNegative significand dropped.length rest

/-- Reads a number after its sign; a zero in front of other digits is no number. -/
def readNumber (isNegative : Bool) : Reader Number
  | [] => .error (.here .endInValue [])
  | c :: rest =>
    if c = '0' then
      match rest with
      | d :: _ =>
        if isDigit d then .error (.peek .invalidNumber rest)
        else readAfterDigits isNegative [c] rest
      | [] => readAfterDigits isNegative [c] []
    else if isDigit c then
      readAfterDigits isNegative (c :: rest.takeWhile isDigit) (rest.dropWhile isDigit)
    else .error (.after 1 .invalidNumber (c :: rest))

/-! ## Passing over a number -/

/-- Passes over the digits that have to follow, at least one. -/
def skipDigits (text : List Char) : Except Failure (List Char) :=
  match text with
  | [] => .error (.here .invalidNumber [])
  | d :: rest =>
    if isDigit d then .ok (rest.dropWhile isDigit) else .error (.after 1 .invalidNumber text)

/-- Passes over an exponent, if there is one. -/
def skipExponent (text : List Char) : Except Failure (List Char) :=
  match text with
  | 'e' :: rest | 'E' :: rest =>
    match rest with
    | '+' :: more | '-' :: more => skipDigits more
    | _ => skipDigits rest
  | _ => .ok text

/-- Passes over a fraction and an exponent, if they are there. -/
def skipScale (text : List Char) : Except Failure (List Char) :=
  match text with
  | '.' :: rest =>
    if (rest.takeWhile isDigit).isEmpty then .error (.peek .invalidNumber rest)
    else skipExponent (rest.dropWhile isDigit)
  | _ => skipExponent text

/-- Passes over a number after its sign. -/
def skipNumber (text : List Char) : Except Failure (List Char) :=
  match text with
  | [] => .error (.here .invalidNumber [])
  | c :: rest =>
    if c = '0' then
      match rest with
      | d :: _ => if isDigit d then .error (.peek .invalidNumber rest) else skipScale rest
      | [] => .ok []
    else if isDigit c then skipScale (rest.dropWhile isDigit)
    else .error (.after 1 .invalidNumber text)

end Duet.Json
