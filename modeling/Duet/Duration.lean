import Duet.Text.Decimal

/-!
# Durations

A duration is a number of whole seconds and of nanoseconds below one second. Nanoseconds given
in excess carry into the seconds, unless the seconds then no longer fit.

**Carrying keeps the total** (`Duration.total_ofParts?`).
-/

namespace Duet

/-- Nanoseconds in a second. -/
def nanosPerSecond : Nat := 1000000000

/-- A stretch of time. -/
structure Duration where
  secs : UInt64
  nanos : Nat
  nanos_lt : nanos < nanosPerSecond
  deriving DecidableEq, Repr

namespace Duration

/-- No time at all. -/
def zero : Duration := ⟨0, 0, by decide⟩

/-- The duration in nanoseconds. -/
def total (d : Duration) : Nat :=
  d.secs.toNat * nanosPerSecond + d.nanos

/-- Seconds and nanoseconds of any size, if the carried seconds still fit. -/
def ofParts? (secs nanos : Nat) : Option Duration :=
  let carried := secs + nanos / nanosPerSecond
  if carried < UInt64.size then
    some ⟨UInt64.ofNat carried, nanos % nanosPerSecond, Nat.mod_lt _ (by decide)⟩
  else none

/-- What is said of parts that do not fit. -/
def overflowMessage : String := "overflow in Duration::new"

theorem total_ofParts? {secs nanos : Nat} {d : Duration} (h : ofParts? secs nanos = some d) :
    d.total = secs * nanosPerSecond + nanos := by
  simp only [ofParts?] at h
  split at h
  · next fits =>
    cases h
    simp only [total, UInt64.toNat_ofNat']
    rw [Nat.mod_eq_of_lt fits, Nat.add_mul]
    have := Nat.div_add_mod nanos nanosPerSecond
    rw [Nat.mul_comm] at this
    omega
  · cases h

/-! ## Writing -/

/-- A list of characters without its trailing zeros. -/
def dropTrailingZeros (ds : List Char) : List Char :=
  (ds.reverse.dropWhile (· = '0')).reverse

/-- A whole number and a fraction of `places` digits, as short as possible, with a unit. -/
def writeUnit (whole fraction places : Nat) (unit : String) : String :=
  let digits := dropTrailingZeros (Text.fixedDigits places fraction)
  let point := if digits.isEmpty then [] else ['.']
  Text.natText whole ++ String.ofList (point ++ digits) ++ unit

/-- The duration in the largest unit in which it is at least one. -/
def display (d : Duration) : String :=
  if 0 < d.secs then writeUnit d.secs.toNat d.nanos 9 "s"
  else if 1000000 ≤ d.nanos then writeUnit (d.nanos / 1000000) (d.nanos % 1000000) 6 "ms"
  else if 1000 ≤ d.nanos then writeUnit (d.nanos / 1000) (d.nanos % 1000) 3 "µs"
  else writeUnit d.nanos 0 0 "ns"

end Duration

end Duet
