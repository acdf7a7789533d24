import Duet.Proofs.Text.Apart
import Duet.Summary.Basic

/-!
# What a summary's text tells

The text for people shows everything a summary holds but the code. The failure is printed as it
is, between lines of the report, so it may hold line feeds and lines that look like those of the
report. The text is therefore read from both ends: its first line is the status, its last lines
are the counts and the time, none of them contains a line feed, and what is left between them is
the failure.

**Two summaries have the same text exactly if they agree on everything but the code**
(`Summary.display_eq_iff`). For the time this rests on **no two durations being written alike**
(`Duration.display_injective`): the unit tells how many places the fraction has, so that zeros that
were left out at its end can be put back.
-/

namespace Duet.Duration

/-- Only zeros are dropped from the end. -/
theorem exists_zeros (ds : List Char) :
    ∃ count, ds = dropTrailingZeros ds ++ List.replicate count '0' := by
  let zeros := ds.reverse.takeWhile (· = '0')
  have isZeros : zeros = List.replicate zeros.length '0' := by
    refine List.eq_replicate_of_mem fun c isIn => ?_
    have all := List.all_eq_true.1 (List.all_takeWhile (p := (· = '0')) (l := ds.reverse)) c isIn
    simpa using all
  refine ⟨zeros.length, ?_⟩
  rw [dropTrailingZeros, ← List.reverse_replicate, ← isZeros, ← List.reverse_append,
    List.takeWhile_append_dropWhile, List.reverse_reverse]

/-- Rows of digits of one length can be told apart without their trailing zeros. -/
theorem dropTrailingZeros_injective {ds es : List Char} (length : ds.length = es.length)
    (same : dropTrailingZeros ds = dropTrailingZeros es) : ds = es := by
  obtain ⟨m, isDs⟩ := exists_zeros ds
  obtain ⟨n, isEs⟩ := exists_zeros es
  rw [isDs, isEs, same, List.length_append, List.length_append, List.length_replicate,
    List.length_replicate] at length
  rw [isDs, isEs, same, Nat.add_left_cancel length]

theorem isDigit_of_mem_dropTrailingZeros {width n : Nat} {c : Char}
    (isIn : c ∈ dropTrailingZeros (Text.fixedDigits width n)) : Text.isDigit c = true := by
  obtain ⟨count, isDigits⟩ := exists_zeros (Text.fixedDigits width n)
  have isDigit : c ∈ Text.fixedDigits width n := by
    rw [isDigits]
    exact List.mem_append_left _ isIn
  exact Text.isDigit_of_mem_fixedDigits isDigit

/-! ## Units -/

/-- The units that durations are written in. -/
inductive Scale where
  | seconds
  | millis
  | micros
  | nanos
  deriving DecidableEq, Repr

/-- The digits that a fraction of the unit has. -/
def Scale.places : Scale → Nat
  | .seconds => 9
  | .millis => 6
  | .micros => 3
  | .nanos => 0

/-- What stands for the unit. -/
def Scale.unit : Scale → String
  | .seconds => "s"
  | .millis => "ms"
  | .micros => "µs"
  | .nanos => "ns"

/-- The unit that a duration is written in. -/
def scale (d : Duration) : Scale :=
  if 0 < d.secs then .seconds
  else if 1000000 ≤ d.nanos then .millis
  else if 1000 ≤ d.nanos then .micros
  else .nanos

theorem Scale.unit_injective {a b : Scale} (same : a.unit = b.unit) : a = b := by
  revert same
  cases a <;> cases b <;> decide

/-- A duration is written as its nanoseconds divided by those of its unit. -/
theorem display_eq (d : Duration) :
    d.display = writeUnit (d.total / 10 ^ d.scale.places) (d.total % 10 ^ d.scale.places)
      d.scale.places d.scale.unit := by
  have lt : d.nanos < 1000000000 := d.nanos_lt
  unfold display scale total nanosPerSecond
  by_cases seconds : 0 < d.secs
  · have quotient : (d.secs.toNat * 1000000000 + d.nanos) / 1000000000 = d.secs.toNat := by omega
    have remainder : (d.secs.toNat * 1000000000 + d.nanos) % 1000000000 = d.nanos := by omega
    simp [seconds, Scale.places, Scale.unit, quotient, remainder]
  · have zero : d.secs.toNat = 0 := by
      rw [UInt64.lt_iff_toNat_lt] at seconds
      exact Nat.eq_zero_of_not_pos seconds
    rw [if_neg seconds, if_neg seconds, zero, Nat.zero_mul, Nat.zero_add]
    by_cases millis : 1000000 ≤ d.nanos
    · simp [millis, Scale.places, Scale.unit]
    · by_cases micros : 1000 ≤ d.nanos
      · simp [millis, micros, Scale.places, Scale.unit]
      · simp [millis, micros, Scale.places, Scale.unit, Nat.mod_one]

theorem total_injective {d e : Duration} (same : d.total = e.total) : d = e := by
  obtain ⟨secs, nanos, lt⟩ := d
  obtain ⟨secs', nanos', lt'⟩ := e
  simp only [total, nanosPerSecond] at same lt lt'
  obtain rfl : secs = secs' := UInt64.toNat_inj.1 (by omega)
  obtain rfl : nanos = nanos' := by omega
  rfl

/-! ## Written durations -/

/-- Digits behind a point, if there are any. -/
def pointed : List Char → List Char
  | [] => []
  | digit :: digits => '.' :: digit :: digits

theorem pointed_injective {ds es : List Char} (same : pointed ds = pointed es) : ds = es := by
  cases ds with
  | nil =>
    cases es with
    | nil => rfl
    | cons e es => cases same
  | cons d ds =>
    cases es with
    | nil => cases same
    | cons e es => exact (List.cons.inj same).2

/-- The fraction of a written duration, with its point. -/
def fractionText (fraction places : Nat) : List Char :=
  pointed (dropTrailingZeros (Text.fixedDigits places fraction))

theorem toList_writeUnit (whole fraction places : Nat) (unit : String) :
    (writeUnit whole fraction places unit).toList =
      Text.decimal whole ++ (fractionText fraction places ++ unit.toList) := by
  simp only [writeUnit, Text.natText, fractionText]
  cases dropTrailingZeros (Text.fixedDigits places fraction) <;> simp [pointed]

/-- What the number in front of a unit is written with. -/
def IsNumeric (c : Char) : Prop :=
  Text.isDigit c = true ∨ c = '.'

theorem isNumeric_of_mem_fractionText {fraction places : Nat} {c : Char}
    (isIn : c ∈ fractionText fraction places) : IsNumeric c := by
  rw [fractionText] at isIn
  cases digits : dropTrailingZeros (Text.fixedDigits places fraction) with
  | nil =>
    rw [digits] at isIn
    cases isIn
  | cons d ds =>
    rw [digits, pointed] at isIn
    rcases List.mem_cons.1 isIn with point | digit
    · exact .inr point
    · rw [← digits] at digit
      exact .inl (isDigit_of_mem_dropTrailingZeros digit)

/-- A fraction starts with its point, if there is one. -/
theorem noDigit_fractionText (fraction places : Nat) :
    Json.NoDigit (fractionText fraction places) := by
  intro c isHead
  rw [fractionText] at isHead
  cases digits : dropTrailingZeros (Text.fixedDigits places fraction) with
  | nil =>
    rw [digits] at isHead
    cases isHead
  | cons d ds =>
    rw [digits] at isHead
    cases isHead
    decide

/-- A fraction that fits its places can be read back. -/
theorem fractionText_injective {fraction fraction' places : Nat} (fits : fraction < 10 ^ places)
    (fits' : fraction' < 10 ^ places)
    (same : fractionText fraction places = fractionText fraction' places) :
    fraction = fraction' := by
  apply Text.fixedDigits_injective fits fits'
  apply dropTrailingZeros_injective
  · rw [Text.length_fixedDigits, Text.length_fixedDigits]
  · exact pointed_injective same

/-- The number in front of the unit. -/
def number (d : Duration) : List Char :=
  Text.decimal (d.total / 10 ^ d.scale.places) ++
    fractionText (d.total % 10 ^ d.scale.places) d.scale.places

theorem toList_display (d : Duration) : d.display.toList = d.number ++ d.scale.unit.toList := by
  rw [display_eq, toList_writeUnit, number, List.append_assoc]

theorem isNumeric_of_mem_number {d : Duration} {c : Char} (isIn : c ∈ d.number) : IsNumeric c := by
  rcases List.mem_append.1 isIn with digit | rest
  · exact .inl (Text.isDigit_of_mem_decimal digit)
  · exact isNumeric_of_mem_fractionText rest

theorem Scale.unit_stops (scale : Scale) (c : Char) (isHead : scale.unit.toList.head? = some c) :
    ¬ IsNumeric c := by
  cases scale <;> cases isHead <;> (unfold IsNumeric; decide)

/-- **No two durations are written alike.** -/
theorem display_injective {d e : Duration} (same : d.display = e.display) : d = e := by
  have texts := congrArg String.toList same
  rw [toList_display, toList_display] at texts
  obtain ⟨numbers, units⟩ := Text.append_inj_of_span IsNumeric texts
    (fun c isIn => isNumeric_of_mem_number isIn) (fun c isIn => isNumeric_of_mem_number isIn)
    d.scale.unit_stops e.scale.unit_stops
  have scales : d.scale = e.scale := Scale.unit_injective (String.toList_inj.1 units)
  obtain ⟨wholes, fractions⟩ := Text.decimal_append_inj numbers
    (noDigit_fractionText _ _) (noDigit_fractionText _ _)
  rw [← scales] at wholes fractions
  have pos : 0 < 10 ^ d.scale.places := Nat.pow_pos (by omega)
  have remainders := fractionText_injective (Nat.mod_lt _ pos) (Nat.mod_lt _ pos) fractions
  apply total_injective
  rw [← Nat.div_add_mod d.total (10 ^ d.scale.places), wholes, remainders, Nat.div_add_mod]

theorem lineFeed_not_mem_display (d : Duration) : '\n' ∉ d.display.toList := by
  intro isIn
  rw [toList_display] at isIn
  rcases List.mem_append.1 isIn with inNumber | inUnit
  · rcases isNumeric_of_mem_number inNumber with digit | point
    · cases digit
    · revert point
      decide
  · revert inUnit
    cases d.scale <;> decide

/-- Whatever the unit, its last letter is the same. -/
theorem getLast?_display (d : Duration) : d.display.toList.getLast? = some 's' := by
  have unit : d.scale.unit.toList.getLast? = some 's' := by
    cases d.scale <;> decide
  rw [toList_display, List.getLast?_append, unit]
  rfl

end Duet.Duration

/-! ## The parts of a summary's text -/

namespace Duet.Summary

/-- What stands before the status. -/
def statusWords : List Char := "Run finished with status: ".toList

/-- What stands before the failure. -/
def causeWords : List Char := "Cause: ".toList

/-- What stands before the workers that were started. -/
def spawnedWords : List Char := "Spawned ".toList

/-- What stands before the workers that were waited for. -/
def joinedWords : List Char := " worker thread(s), joined ".toList

/-- What stands before the time. -/
def timeWords : List Char := "Nondeterministic realtime elapsed: ".toList

/-- The failure on a line of its own, without the end of the line. -/
def cause : Option String → List Char
  | none => []
  | some failure => '\n' :: (causeWords ++ failure.toList)

/-- The part of the text before the counts, without the line feed at its end. -/
def opening (s : Summary) : List Char :=
  (statusWords ++ s.status.display.toList) ++ cause s.failure

/-- The line of the counts, without its end. -/
def counts (s : Summary) : List Char :=
  spawnedWords ++ (Text.decimal s.spawned.toNat ++
    (joinedWords ++ (Text.decimal s.joined.toNat ++ ['.'])))

/-- The line of the time, without its end. -/
def timing (elapsed : Duration) : List Char :=
  timeWords ++ elapsed.display.toList

/-- The text without the line feed that ends it. -/
def body (s : Summary) : List Char :=
  match s.elapsed with
  | none => s.opening ++ '\n' :: s.counts
  | some elapsed => (s.opening ++ '\n' :: s.counts) ++ '\n' :: timing elapsed

theorem toList_display (s : Summary) : s.display.toList = s.body ++ ['\n'] := by
  have feed : "\n".toList = ['\n'] := rfl
  have stop : ".\n".toList = ['.', '\n'] := rfl
  unfold display statusLine countLine causeLine timeLine Text.natText
  unfold body opening counts timing statusWords spawnedWords joinedWords timeWords
  cases s.failure <;> cases s.elapsed <;> unfold cause causeWords <;>
    -- The fixed words stay closed: only where they stand matters here.
    generalize "Run finished with status: " = a, "Cause: " = b, "Spawned " = c,
      " worker thread(s), joined " = d, "Nondeterministic realtime elapsed: " = e <;>
    simp [String.toList_append, feed, stop]

/-! ## Each part can be read back -/

theorem cause_injective {failure failure' : Option String}
    (same : cause failure = cause failure') : failure = failure' := by
  cases failure with
  | none =>
    cases failure' with
    | none => rfl
    | some text' => cases same
  | some text =>
    cases failure' with
    | none => cases same
    | some text' =>
      have texts := List.append_cancel_left (List.cons.inj same).2
      rw [String.toList_inj.1 texts]

/-- The first line ends before the failure begins. -/
theorem opening_injective {s t : Summary} (same : s.opening = t.opening) :
    s.status = t.status ∧ s.failure = t.failure := by
  have noFeed (status : Status) (c : Char) (isIn : c ∈ statusWords ++ status.display.toList) :
      c ≠ '\n' := by
    rintro rfl
    revert isIn
    cases status <;> decide +kernel
  have stop (failure : Option String) (c : Char) (isHead : (cause failure).head? = some c) :
      ¬ c ≠ '\n' := by
    cases failure with
    | none => cases isHead
    | some text => exact not_not_intro (Option.some.inj isHead).symm
  obtain ⟨statuses, causes⟩ := Text.append_inj_of_span (· ≠ '\n') same
    (noFeed s.status) (noFeed t.status) (stop s.failure) (stop t.failure)
  refine ⟨?_, cause_injective causes⟩
  have displays := List.append_cancel_left statuses
  revert displays
  cases s.status <;> cases t.status <;> decide +kernel

/-- The two numbers end where the words after them begin. -/
theorem counts_injective {s t : Summary} (same : s.counts = t.counts) :
    s.spawned = t.spawned ∧ s.joined = t.joined := by
  have blank (rest : List Char) : Json.NoDigit (joinedWords ++ rest) := by
    intro c isHead
    cases isHead
    decide
  have stop : Json.NoDigit ['.'] := by
    intro c isHead
    cases isHead
    decide
  have afterStart := List.append_cancel_left same
  obtain ⟨spawned, rest⟩ := Text.decimal_append_inj afterStart (blank _) (blank _)
  have afterWords := List.append_cancel_left rest
  obtain ⟨joined, -⟩ := Text.decimal_append_inj afterWords stop stop
  exact ⟨UInt64.toNat_inj.1 spawned, UInt64.toNat_inj.1 joined⟩

theorem lineFeed_not_mem_counts (s : Summary) : '\n' ∉ s.counts := by
  have noDigit (n : Nat) : '\n' ∉ Text.decimal n := by
    intro isIn
    cases Text.isDigit_of_mem_decimal isIn
  have words : '\n' ∉ spawnedWords ∧ '\n' ∉ joinedWords := by decide
  simp only [counts, List.mem_append, not_or]
  exact ⟨words.1, noDigit _, words.2, noDigit _, by decide⟩

theorem lineFeed_not_mem_timing (elapsed : Duration) : '\n' ∉ timing elapsed := by
  have words : '\n' ∉ timeWords := by decide
  simp only [timing, List.mem_append, not_or]
  exact ⟨words, elapsed.lineFeed_not_mem_display⟩

/-- The last character before the end tells whether there is a time: counts end in a full stop. -/
theorem getLast?_body (s : Summary) :
    s.body.getLast? = some (if s.elapsed.isSome then 's' else '.') := by
  have ofLine {line : List Char} {last : Char} (front : List Char)
      (isLast : line.getLast? = some last) : (front ++ '\n' :: line).getLast? = some last := by
    rw [List.getLast?_append, List.getLast?_cons, isLast]
    rfl
  unfold body
  cases s.elapsed with
  | none => exact ofLine _ (by simp [counts, List.getLast?_append])
  | some elapsed => exact ofLine _ (by simp [timing, elapsed.getLast?_display])

/-- **The text is read from its end**: the last lines are the time, if there is one, and the
counts, whatever stands before them. -/
theorem body_injective {s t : Summary} (same : s.body = t.body) :
    s.opening = t.opening ∧ s.counts = t.counts ∧ s.elapsed = t.elapsed := by
  have lasts := congrArg List.getLast? same
  rw [getLast?_body, getLast?_body] at lasts
  unfold body at same
  cases time : s.elapsed with
  | none =>
    cases time' : t.elapsed with
    | none =>
      simp only [time, time'] at same
      obtain ⟨openings, counts⟩ := Text.append_cons_inj_of_last same
        s.lineFeed_not_mem_counts t.lineFeed_not_mem_counts
      exact ⟨openings, counts, rfl⟩
    | some elapsed' =>
      rw [time, time'] at lasts
      cases lasts
  | some elapsed =>
    cases time' : t.elapsed with
    | none =>
      rw [time, time'] at lasts
      cases lasts
    | some elapsed' =>
      simp only [time, time'] at same
      obtain ⟨fronts, timings⟩ := Text.append_cons_inj_of_last same
        (lineFeed_not_mem_timing elapsed) (lineFeed_not_mem_timing elapsed')
      obtain ⟨openings, counts⟩ := Text.append_cons_inj_of_last fronts
        s.lineFeed_not_mem_counts t.lineFeed_not_mem_counts
      have displays := String.toList_inj.1 (List.append_cancel_left timings)
      rw [Duration.display_injective displays]
      exact ⟨openings, counts, rfl⟩

/-- **The text of a summary tells everything but the code.** Whatever the failure says, and be it
in the words of the report itself, two summaries have the same text exactly if they agree on the
status, the failure, both counts and the time. -/
theorem display_eq_iff (s t : Summary) :
    s.display = t.display ↔
      s.status = t.status ∧ s.failure = t.failure ∧ s.spawned = t.spawned ∧
        s.joined = t.joined ∧ s.elapsed = t.elapsed := by
  constructor
  · intro same
    have texts := congrArg String.toList same
    rw [toList_display, toList_display] at texts
    obtain ⟨openings, counts, elapsed⟩ := body_injective (List.append_cancel_right texts)
    obtain ⟨status, failure⟩ := opening_injective openings
    obtain ⟨spawned, joined⟩ := counts_injective counts
    exact ⟨status, failure, spawned, joined, elapsed⟩
  · rintro ⟨status, failure, spawned, joined, elapsed⟩
    unfold display statusLine countLine
    rw [status, failure, spawned, joined, elapsed]

end Duet.Summary
