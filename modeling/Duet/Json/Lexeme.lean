import Duet.Json.Failure

/-!
# The small pieces of JSON

Blanks, words and string literals. A reader takes the rest of a text and gives back what it
read with the rest after it.

**A string literal is read escape by escape, and each escape takes something from the rest**
(`readEscape_length`), so reading a literal ends.
-/

namespace Duet.Json

/-- Reads something from the front of a text. -/
abbrev Reader (α : Type) := List Char → Except Failure (α × List Char)

/-! ## Blanks and words -/

/-- Whether a character may stand between two pieces. -/
def isBlank (c : Char) : Bool :=
  c = ' ' || c = '\n' || c = '\t' || c = '\r'

/-- The text after its leading blanks. -/
def skipBlank (text : List Char) : List Char :=
  text.dropWhile isBlank

/-- Reads the rest of a word whose beginning told which word it has to be. -/
def readWord : List Char → Reader Unit
  | [], rest => .ok ((), rest)
  | _ :: _, [] => .error (.here .endInValue [])
  | w :: ws, c :: rest =>
    if c = w then readWord ws rest else .error (.after 1 .expectedIdent (c :: rest))

/-! ## Escapes -/

/-- What a hexadecimal digit of either case stands for. -/
def hexValue? (c : Char) : Option Nat :=
  if '0' ≤ c ∧ c ≤ '9' then some (c.toNat - '0'.toNat)
  else if 'a' ≤ c ∧ c ≤ 'f' then some (c.toNat - 'a'.toNat + 10)
  else if 'A' ≤ c ∧ c ≤ 'F' then some (c.toNat - 'A'.toNat + 10)
  else none

/-- The failure of a code that is not four digits; four bytes have to be there before any of
them is looked at. -/
def badCode (text : List Char) : Failure :=
  if Text.Utf8.size text < 4 then .here .endInString [] else .after 4 .invalidEscape text

/-- Reads the four digits of a code. -/
def readCode (text : List Char) : Except Failure (Nat × List Char) :=
  match text with
  | a :: b :: c :: d :: rest =>
    match hexValue? a, hexValue? b, hexValue? c, hexValue? d with
    | some a, some b, some c, some d => .ok (((a * 16 + b) * 16 + c) * 16 + d, rest)
    | _, _, _, _ => .error (badCode text)
  | _ => .error (badCode text)

/-- The character of a letter after a backslash. -/
def simpleEscape? : Char → Option Char
  | '"' => some '"'
  | '\\' => some '\\'
  | '/' => some '/'
  | 'b' => some '\x08'
  | 'f' => some '\x0c'
  | 'n' => some '\n'
  | 'r' => some '\r'
  | 't' => some '\t'
  | _ => none

/-- Whether a code is the first half of a pair. -/
def isHighHalf (n : Nat) : Bool :=
  0xD800 ≤ n && n ≤ 0xDBFF

/-- Whether a code is the second half of a pair. -/
def isLowHalf (n : Nat) : Bool :=
  0xDC00 ≤ n && n ≤ 0xDFFF

/-- The character of a pair of halves. -/
def joinHalves (high low : Nat) : Char :=
  Char.ofNat ((high - 0xD800) * 0x400 + (low - 0xDC00) + 0x10000)

/-- Reads the second half of a pair whose first half has been read. -/
def readLowHalf (high : Nat) : List Char → Except Failure (Char × List Char)
  | [] => .error (.here .endInString [])
  | c :: rest =>
    if c = '\\' then
      match rest with
      | [] => .error (.here .endInString [])
      | d :: rest =>
        if d = 'u' then do
          let (low, rest) ← readCode rest
          if isLowHalf low then .ok (joinHalves high low, rest)
          else .error (.here .loneSurrogate rest)
        else .error (.after 1 .unexpectedEndOfHexEscape (d :: rest))
    else .error (.after 1 .unexpectedEndOfHexEscape (c :: rest))

/-- Reads what follows a backslash. -/
def readEscape : List Char → Except Failure (Char × List Char)
  | [] => .error (.here .endInString [])
  | c :: rest =>
    match simpleEscape? c with
    | some plain => .ok (plain, rest)
    | none =>
      if c = 'u' then do
        let (code, rest) ← readCode rest
        if isLowHalf code then .error (.here .loneSurrogate rest)
        else if isHighHalf code then readLowHalf code rest
        else .ok (Char.ofNat code, rest)
      else .error (.after 1 .invalidEscape (c :: rest))

theorem readCode_length {text rest : List Char} {n : Nat} (h : readCode text = .ok (n, rest)) :
    rest.length < text.length := by
  unfold readCode at h
  split at h
  · split at h
    · cases h; simp; omega
    · cases h
  · cases h

theorem readLowHalf_length {high : Nat} {text rest : List Char} {c : Char}
    (h : readLowHalf high text = .ok (c, rest)) : rest.length < text.length := by
  unfold readLowHalf at h
  split at h
  · cases h
  · split at h
    · split at h
      · cases h
      · split at h
        · next d more _ =>
          cases hc : readCode more with
          | error e => simp [hc, bind, Except.bind] at h
          | ok p =>
            obtain ⟨low, after⟩ := p
            have shorter := readCode_length hc
            simp only [hc, bind, Except.bind] at h
            split at h
            · simp only [Except.ok.injEq, Prod.mk.injEq] at h
              rw [← h.2]; simp; omega
            · cases h
        · cases h
    · cases h

theorem readEscape_length {text rest : List Char} {c : Char}
    (h : readEscape text = .ok (c, rest)) : rest.length < text.length := by
  unfold readEscape at h
  split at h
  · cases h
  · next d more =>
    split at h
    · cases h; simp
    · split at h
      · cases hc : readCode more with
        | error e => simp [hc, bind, Except.bind] at h
        | ok p =>
          obtain ⟨code, after⟩ := p
          have shorter := readCode_length hc
          simp only [hc, bind, Except.bind] at h
          split at h
          · cases h
          · split at h
            · have := readLowHalf_length h
              simp; omega
            · simp only [Except.ok.injEq, Prod.mk.injEq] at h
              rw [← h.2]; simp; omega
      · cases h

/-! ## String literals -/

/-- Reads the inside of a string literal up to the closing quote, with what has been read so
far held in reverse. -/
def readStringFrom (read : List Char) : List Char → Except Failure (List Char × List Char)
  | [] => .error (.here .endInString [])
  | c :: rest =>
    if c = '"' then .ok (read.reverse, rest)
    else if c = '\\' then
      match h : readEscape rest with
      | .ok (e, rest') =>
        have := readEscape_length h
        readStringFrom (e :: read) rest'
      | .error f => .error f
    else if c < ' ' then .error (.after 1 .controlCharacter (c :: rest))
    else readStringFrom (c :: read) rest
termination_by text => text.length
decreasing_by all_goals (simp; try omega)

/-- Reads a string literal after its opening quote. -/
def readString : Reader (List Char) :=
  readStringFrom []

/-- Passes over what follows a backslash; the halves of a pair need not match. -/
def skipEscape : List Char → Except Failure (List Char)
  | [] => .error (.here .endInString [])
  | c :: rest =>
    if (simpleEscape? c).isSome then .ok rest
    else if c = 'u' then do
      let (_, rest) ← readCode rest
      .ok rest
    else .error (.after 1 .invalidEscape (c :: rest))

theorem skipEscape_length {text rest : List Char} (h : skipEscape text = .ok rest) :
    rest.length < text.length := by
  unfold skipEscape at h
  split at h
  · cases h
  · next d more =>
    split at h
    · cases h; simp
    · split at h
      · cases hc : readCode more with
        | error e => simp [hc, bind, Except.bind] at h
        | ok p =>
          obtain ⟨code, after⟩ := p
          have shorter := readCode_length hc
          simp only [hc, bind, Except.bind] at h
          cases h; simp; omega
      · cases h

/-- Passes over a string literal after its opening quote. -/
def skipString : List Char → Except Failure (List Char)
  | [] => .error (.here .endInString [])
  | c :: rest =>
    if c = '"' then .ok rest
    else if c = '\\' then
      match h : skipEscape rest with
      | .ok rest' =>
        have := skipEscape_length h
        skipString rest'
      | .error f => .error f
    else if c < ' ' then .error (.here .controlCharacter (c :: rest))
    else skipString rest
termination_by text => text.length
decreasing_by all_goals (simp; try omega)

end Duet.Json
