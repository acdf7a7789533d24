/-!
# Text as bytes

Text is encoded as UTF-8. Decoding never fails: it yields one character for every well-formed
sequence and one mark for every maximal malformed one, so that a text and its damage stay
aligned. Showing the marks as U+FFFD gives the lossy decoding.

**A decoder stands between two characters or inside one, and a byte that cannot continue the
one it is inside ends it with a mark and is then read afresh.** This makes decoding a walk
over the bytes with a small state, and decoding of two texts in a row the decoding of their
concatenation wherever the second starts with a whole character.
-/

namespace Duet.Text.Utf8

/-! ## Encoding -/

/-- The bytes of a text. -/
def encode (cs : List Char) : List UInt8 :=
  cs.flatMap String.utf8EncodeChar

/-- The bytes of a string. -/
def encodeString (s : String) : List UInt8 :=
  encode s.toList

theorem encode_append (a b : List Char) : encode (a ++ b) = encode a ++ encode b := by
  simp [encode]

/-- The number of bytes a text takes. -/
def size (cs : List Char) : Nat :=
  cs.foldl (fun n c => n + c.utf8Size) 0

/-! ## Places counted in bytes -/

/-- What follows the first `n` bytes, if they are whole characters. -/
def drop? : (n : Nat) → List Char → Option (List Char)
  | 0, text => some text
  | _, [] => none
  | n, c :: rest => if c.utf8Size ≤ n then drop? (n - c.utf8Size) rest else none

/-- The first `n` bytes, if they are whole characters. -/
def take? : (n : Nat) → List Char → Option (List Char)
  | 0, _ => some []
  | _, [] => none
  | n, c :: rest =>
    if c.utf8Size ≤ n then (take? (n - c.utf8Size) rest).map (c :: ·) else none

/-- The text between two places, if both are between characters. -/
def slice? (start stop : Nat) (text : List Char) : Option (List Char) :=
  (drop? start text).bind (take? (stop - start))

theorem take?_append_drop? {n : Nat} {text taken rest : List Char}
    (h : take? n text = some taken) (h' : drop? n text = some rest) : taken ++ rest = text := by
  induction text generalizing n taken with
  | nil =>
    cases n with
    | zero => simp_all [take?, drop?]
    | succ n => simp [take?] at h
  | cons c text ih =>
    cases n with
    | zero => simp_all [take?, drop?]
    | succ n =>
      simp only [take?, drop?] at h h'
      split at h
      · next fits =>
        obtain ⟨inner, isInner, rfl⟩ := Option.map_eq_some_iff.1 h
        rw [if_pos fits] at h'
        rw [List.cons_append, ih isInner h']
      · simp at h

/-! ## Decoding -/

/-- A sequence that has begun: how many bytes it lacks, the range of the next one, and the
bits read so far. -/
structure Pending where
  missing : Nat
  low : UInt8
  high : UInt8
  bits : Nat
  deriving DecidableEq, Repr

/-- What one byte leads to: what can be told already, and the sequence that is under way. -/
abbrev Progress := List (Option Char) × Option Pending

/-- Reads the first byte of a sequence. -/
def lead (b : UInt8) : Progress :=
  let n := b.toNat
  if n < 0x80 then ([some (Char.ofNat n)], none)
  else if 0xC2 ≤ n ∧ n ≤ 0xDF then ([], some ⟨1, 0x80, 0xBF, n - 0xC0⟩)
  else if n = 0xE0 then ([], some ⟨2, 0xA0, 0xBF, 0⟩)
  else if n = 0xED then ([], some ⟨2, 0x80, 0x9F, 0xD⟩)
  else if 0xE1 ≤ n ∧ n ≤ 0xEF then ([], some ⟨2, 0x80, 0xBF, n - 0xE0⟩)
  else if n = 0xF0 then ([], some ⟨3, 0x90, 0xBF, 0⟩)
  else if 0xF1 ≤ n ∧ n ≤ 0xF3 then ([], some ⟨3, 0x80, 0xBF, n - 0xF0⟩)
  else if n = 0xF4 then ([], some ⟨3, 0x80, 0x8F, 4⟩)
  else ([none], none)

/-- Reads one byte, inside a sequence or between two. -/
def step : Option Pending → UInt8 → Progress
  | none, b => lead b
  | some p, b =>
    if p.low ≤ b ∧ b ≤ p.high then
      let bits := p.bits * 64 + b.toNat % 64
      if p.missing ≤ 1 then ([some (Char.ofNat bits)], none)
      else ([], some ⟨p.missing - 1, 0x80, 0xBF, bits⟩)
    else
      let (told, next) := lead b
      (none :: told, next)

/-- Decodes from a given state; a sequence that never ends is one mark. -/
def decodeFrom : Option Pending → List UInt8 → List (Option Char)
  | none, [] => []
  | some _, [] => [none]
  | state, b :: bytes =>
    let (told, next) := step state b
    told ++ decodeFrom next bytes

/-- Decodes bytes into characters and marks (`none`) for malformed sequences. -/
def decode (bytes : List UInt8) : List (Option Char) :=
  decodeFrom none bytes

/-- The replacement character. -/
def replacement : Char := '\uFFFD'

/-- A decoded text with its marks shown as replacement characters. -/
def lossy (text : List (Option Char)) : List Char :=
  text.map (·.getD replacement)

/-- The characters of a decoded text that has no mark. -/
def whole? (text : List (Option Char)) : Option (List Char) :=
  text.mapM id

/-- Decodes bytes, with U+FFFD in place of each malformed sequence. -/
def decodeLossy (bytes : List UInt8) : List Char :=
  lossy (decode bytes)

/-- The string that bytes decode to lossily. -/
def decodeString (bytes : List UInt8) : String :=
  String.ofList (decodeLossy bytes)

end Duet.Text.Utf8
