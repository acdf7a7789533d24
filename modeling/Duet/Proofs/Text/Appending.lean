import Duet.Proofs.Text.Utf8
import Duet.Text.Lines

/-!
# A text after bytes

Bytes that were written earlier may be malformed in any way, and may end inside a character. The
first byte of a character never continues one that was begun, so that a text which follows is
decoded as itself, and what it follows is decoded as if nothing came.

**A text adds itself to what the bytes before it decode to** (`Utf8.decodeLossy_append_encode`),
whatever these bytes are, and **whole lines add themselves to the lines of a text that is empty or
ends one** (`lines_append_of_ended`).

What this does not establish: that decoding distributes over bytes that are no text. A character
whose bytes are written in two pieces is decoded as two marks or more if each piece is decoded by
itself.
-/

namespace Duet.Text

namespace Utf8

/-! ## First bytes -/

/-- A byte that continues a character. -/
def Continues (b : UInt8) : Prop :=
  0x80 ≤ b ∧ b ≤ 0xBF

/-- The first byte of a character continues none. -/
theorem utf8EncodeChar_eq_cons (c : Char) :
    ∃ b rest, String.utf8EncodeChar c = b :: rest ∧ ¬ Continues b := by
  have starts {n : Nat} (small : n < 256) (other : n < 128 ∨ 192 ≤ n) :
      ¬ Continues (UInt8.ofNat n) := by
    intro continues
    have low : 128 ≤ n := by
      simpa [UInt8.le_iff_toNat_le, toNat_ofNat small] using continues.1
    have high : n ≤ 191 := by
      simpa [UInt8.le_iff_toNat_le, toNat_ofNat small] using continues.2
    omega
  simp only [String.utf8EncodeChar]
  split
  · exact ⟨_, _, rfl, starts (by omega) (by omega)⟩
  split
  · exact ⟨_, _, rfl, starts (by omega) (by omega)⟩
  split
  · exact ⟨_, _, rfl, starts (by omega) (by omega)⟩
  · exact ⟨_, _, rfl, starts (by omega) (by omega)⟩

/-! ## The decoder inside a character -/

/-- A state of the decoder in which only a byte that continues a character is taken as one. -/
def Waiting (state : Option Pending) : Prop :=
  ∀ p ∈ state, 0x80 ≤ p.low ∧ p.high ≤ 0xBF

theorem waiting_none : Waiting none := by
  intro p isSome
  cases isSome

theorem waiting_some {low high : UInt8} (above : 0x80 ≤ low) (below : high ≤ 0xBF)
    (missing bits : Nat) : Waiting (some ⟨missing, low, high, bits⟩) := by
  intro p same
  cases same
  exact ⟨above, below⟩

theorem waiting_lead (b : UInt8) : Waiting (lead b).2 := by
  unfold lead
  dsimp only
  repeat' split
  all_goals first
    | exact waiting_none
    | exact waiting_some (by decide) (by decide) _ _

/-- **One byte** leaves the decoder waiting. -/
theorem waiting_step (state : Option Pending) (b : UInt8) : Waiting (step state b).2 := by
  cases state with
  | none => exact waiting_lead b
  | some p =>
    simp only [step]
    split
    · split
      · exact waiting_none
      · exact waiting_some (by decide) (by decide) _ _
    · exact waiting_lead b

theorem decodeFrom_cons (state : Option Pending) (b : UInt8) (bytes : List UInt8) :
    decodeFrom state (b :: bytes) = (step state b).1 ++ decodeFrom (step state b).2 bytes := by
  cases state <;> rfl

/-- A byte that continues no character ends the one that is under way with a mark. -/
theorem decodeFrom_of_not_continues {p : Pending} (waiting : Waiting (some p)) {b : UInt8}
    (other : ¬ Continues b) (rest : List UInt8) :
    decodeFrom (some p) (b :: rest) = none :: decodeFrom none (b :: rest) := by
  obtain ⟨low, high⟩ := waiting p rfl
  have outside : ¬ (p.low ≤ b ∧ b ≤ p.high) := by
    rintro ⟨above, below⟩
    exact other ⟨UInt8.le_trans low above, UInt8.le_trans below high⟩
  simp [decodeFrom, step, outside]

theorem decodeFrom_encode {state : Option Pending} (waiting : Waiting state) (text : List Char) :
    decodeFrom state (encode text) = decodeFrom state [] ++ text.map some := by
  have whole : decodeFrom none (encode text) = text.map some := decode_encode text
  cases state with
  | none => exact whole
  | some p =>
    cases text with
    | nil => simp [encode]
    | cons c text =>
      obtain ⟨b, rest, first, other⟩ := utf8EncodeChar_eq_cons c
      have shape : encode (c :: text) = b :: (rest ++ encode text) := by
        simp [encode, first]
      rw [shape] at whole ⊢
      rw [decodeFrom_of_not_continues waiting other, whole]
      rfl

/-- **A text after any bytes is decoded as itself**, and the bytes as if they were alone. The
induction is over the bytes; that the decoder is waiting carries it over their end. -/
theorem decodeFrom_append_encode {state : Option Pending} (waiting : Waiting state)
    (bytes : List UInt8) (text : List Char) :
    decodeFrom state (bytes ++ encode text) = decodeFrom state bytes ++ text.map some := by
  induction bytes generalizing state with
  | nil => exact decodeFrom_encode waiting text
  | cons b bytes ih =>
    rw [List.cons_append, decodeFrom_cons, decodeFrom_cons, ih (waiting_step state b),
      List.append_assoc]

/-- **A text adds itself to what the bytes before it decode to.** -/
theorem decodeLossy_append_encode (bytes : List UInt8) (text : List Char) :
    decodeLossy (bytes ++ encode text) = decodeLossy bytes ++ text := by
  have decoded : decode (bytes ++ encode text) = decode bytes ++ text.map some :=
    decodeFrom_append_encode waiting_none bytes text
  rw [decodeLossy, decoded, decodeLossy]
  simp [lossy, Function.comp_def]

end Utf8

/-! ## Lines -/

/-- A text of whole lines: it is empty or its last line is ended. -/
def Ended (text : List Char) : Prop :=
  text = [] ∨ ∃ front, text = front ++ ['\n']

/-- What follows a line feed begins new lines. -/
theorem linesFrom_append (line front rest : List Char) :
    linesFrom line (front ++ '\n' :: rest) = linesFrom line (front ++ ['\n']) ++ lines rest := by
  induction front generalizing line with
  | nil => simp [linesFrom, lines]
  | cons c front ih =>
    by_cases feed : c = '\n'
    · simp [linesFrom, feed, ih]
    · simp [linesFrom, feed, ih]

theorem lines_append_of_ended {text : List Char} (ended : Ended text) (rest : List Char) :
    lines (text ++ rest) = lines text ++ lines rest := by
  rcases ended with rfl | ⟨front, rfl⟩
  · rfl
  · rw [List.append_assoc]
    exact linesFrom_append [] front rest

/-- A line that is to be kept as it is: it has no line feed, and no carriage return at its end. -/
structure Kept (line : List Char) : Prop where
  feed : '\n' ∉ line
  plain : dropReturn line.reverse = line.reverse

theorem linesFrom_of_not_mem {line : List Char} (feed : '\n' ∉ line) (before rest : List Char) :
    linesFrom before (line ++ rest) = linesFrom (line.reverse ++ before) rest := by
  induction line generalizing before with
  | nil => rfl
  | cons c line ih =>
    obtain ⟨other, feed⟩ := List.ne_and_not_mem_of_not_mem_cons feed
    rw [List.cons_append, linesFrom, if_neg (Ne.symm other), ih feed]
    simp

/-- **Lines that are ended one by one are the lines of the text they make up.** -/
theorem lines_flatMap {row : List (List Char)} (kept : ∀ line ∈ row, Kept line) :
    lines (row.flatMap (· ++ ['\n'])) = row := by
  induction row with
  | nil => rfl
  | cons line row ih =>
    obtain ⟨keptLine, keptRow⟩ := List.forall_mem_cons.1 kept
    have first : lines (line ++ ['\n'] ++ row.flatMap (· ++ ['\n'])) =
        line :: lines (row.flatMap (· ++ ['\n'])) := by
      rw [List.append_assoc, lines, linesFrom_of_not_mem keptLine.feed]
      simp [linesFrom, lines, keptLine.plain]
    rw [List.flatMap_cons, first, ih keptRow]

end Duet.Text
