import Duet.Text.Decimal

/-!
# Time stamps

A log line begins with the time it was written at: date and time of day in universal time, to
the microsecond. The date is found by counting days from the first of March of the year zero, so
that a leap day is the last day of its year.

What this does not establish: leap seconds are not known to a count of seconds, and times before
the year 1970 are not written.
-/

namespace Duet.Log

/-- A day of the calendar. -/
structure Date where
  year : Nat
  month : Nat
  day : Nat
  deriving DecidableEq, Repr

/-- The days from the first of March of the year zero to the first of January 1970. -/
def daysToEpoch : Nat := 719468

/-- The days of four hundred years. -/
def daysOfEra : Nat := 146097

/-- The date of a day, counted from the first of January 1970. -/
def Date.ofDay (day : Nat) : Date :=
  let days := day + daysToEpoch
  let inEra := days % daysOfEra
  let yearInEra := (inEra - inEra / 1460 + inEra / 36524 - inEra / 146096) / 365
  let inYear := inEra - (365 * yearInEra + yearInEra / 4 - yearInEra / 100)
  let month := (5 * inYear + 2) / 153
  let january := if month < 10 then 0 else 1
  { year := yearInEra + days / daysOfEra * 400 + january
    month := month + 3 - 12 * january
    day := inYear - (153 * month + 2) / 5 + 1 }

/-- A number in a field of digits, filled up with zeros. -/
def digits (places n : Nat) : String :=
  String.ofList (Text.fixedDigits places n)

/-- The stamp of a time, given in nanoseconds from the start of the year 1970. -/
def stamp (nanos : Nat) : String :=
  let micros := nanos / 1000
  let secs := micros / 1000000
  let date := Date.ofDay (secs / 86400)
  digits 4 date.year ++ "-" ++ digits 2 date.month ++ "-" ++ digits 2 date.day ++ "T"
    ++ digits 2 (secs / 3600 % 24) ++ ":" ++ digits 2 (secs / 60 % 60) ++ ":"
    ++ digits 2 (secs % 60) ++ "." ++ digits 6 (micros % 1000000) ++ "Z"

example : Date.ofDay 0 = ⟨1970, 1, 1⟩ := by decide

example : Date.ofDay 11016 = ⟨2000, 2, 29⟩ := by decide

example : Date.ofDay 20088 = ⟨2024, 12, 31⟩ := by decide

end Duet.Log
