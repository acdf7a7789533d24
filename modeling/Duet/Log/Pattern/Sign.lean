import Duet.Text.Blank

/-!
# The signs of a pattern

A pattern is read sign by sign, in a mode that the pattern itself can change. A sign is a character
that stands for itself, a shorthand for a class of characters, or a boundary. What can be used
depends on the mode: there are no tables of characters beyond ASCII, so letters of either case can
be taken as equal, and the shorthands used, only where characters are bytes; and bytes beyond ASCII
cannot be asked for, because what is matched is text.
-/

namespace Duet.Log.Pattern

/-! ## Modes -/

/-- How a pattern is being read. -/
structure Mode where
  /-- Whether letters of either case are taken as equal. -/
  ignoresCase : Bool := false
  /-- Whether characters are code points; else they are bytes. -/
  isUnicode : Bool := true
  /-- Whether blanks and comments between signs are skipped. -/
  skipsBlanks : Bool := false
  deriving DecidableEq, Repr

namespace Mode

/-- The mode with what a letter stands for turned on or off; some letters change only what a
pattern matches. -/
def set? (m : Mode) (letter : Char) (on : Bool) : Option Mode :=
  if letter = 'i' then some { m with ignoresCase := on }
  else if letter = 'u' then some { m with isUnicode := on }
  else if letter = 'x' then some { m with skipsBlanks := on }
  else if ['m', 's', 'U', 'R'].contains letter then some m
  else none

/-- Whether a character may stand for itself, given whether it was written as the number of a
byte. -/
def allowsLiteral (m : Mode) (c : Char) (isByte : Bool) : Bool :=
  if m.isUnicode then !m.ignoresCase else !(isByte && 0x7F < c.toNat)

/-- Whether a character may be listed in a class. -/
def allowsListed (m : Mode) (c : Char) : Bool :=
  if m.isUnicode then !m.ignoresCase else c.toNat ≤ 0x7F

/-- Whether a shorthand for a class may be used. -/
def allowsShorthand (m : Mode) (isNegated : Bool) : Bool :=
  !m.isUnicode && !isNegated

/-- Whether a class that is known by a name may be used. -/
def allowsNamed (m : Mode) (isNegated : Bool) : Bool :=
  if m.isUnicode then !m.ignoresCase else !isNegated

/-- Drops blanks and comments, which run from `#` to the end of the line. -/
def dropBlanks (inComment : Bool) : List Char → List Char
  | [] => []
  | c :: rest =>
    if inComment then dropBlanks (c ≠ '\n') rest
    else if Text.isBlank c then dropBlanks false rest
    else if c = '#' then dropBlanks true rest
    else c :: rest

/-- What is left once blanks and comments are skipped, if they are. -/
def skip (m : Mode) (text : List Char) : List Char :=
  if m.skipsBlanks then dropBlanks false text else text

/-- The next character, with blanks skipped if they are, and the sign of a comment like one. -/
def peek? (m : Mode) (text : List Char) : Option Char :=
  if m.skipsBlanks then
    match text.dropWhile Text.isBlank with
    | '#' :: rest => (rest.dropWhile Text.isBlank).head?
    | rest => rest.head?
  else text.head?

/-- What is left, which has to be something. -/
def more? (m : Mode) (text : List Char) : Option (List Char) :=
  match m.skip text with
  | [] => none
  | rest => some rest

end Mode

/-! ## Signs -/

/-- What a single sign of a pattern stands for. -/
inductive Sign where
  /-- A character, and whether it was written as the number of a byte. -/
  | literal (c : Char) (isByte : Bool)
  /-- A class with a letter of its own. -/
  | shorthand (isNegated : Bool)
  /-- A place between characters, and whether words decide about it. -/
  | boundary (ofWord : Bool)
  deriving DecidableEq, Repr

/-- What a hexadecimal digit stands for. -/
def hexDigit? (c : Char) : Option Nat :=
  if '0' ≤ c ∧ c ≤ '9' then some (c.toNat - '0'.toNat)
  else if 'a' ≤ c ∧ c ≤ 'f' then some (c.toNat - 'a'.toNat + 10)
  else if 'A' ≤ c ∧ c ≤ 'F' then some (c.toNat - 'A'.toNat + 10)
  else none

/-- Reads a number of hexadecimal digits, continuing from `n`. -/
def readHex (m : Mode) : (digits : Nat) → (n : Nat) → List Char → Option (Nat × List Char)
  | 0, n, text => some (n, text)
  | digits + 1, n, text =>
    match m.skip text with
    | [] => none
    | c :: rest => (hexDigit? c).bind fun d => readHex m digits (n * 16 + d) rest

/-- Reads a character by its number, written with so many digits. -/
def readNumbered (m : Mode) (digits : Nat) (text : List Char) : Option (Sign × List Char) :=
  (readHex m digits 0 text).bind fun (n, rest) =>
    if n.isValidChar then some (.literal (Char.ofNat n) (digits = 2), m.skip rest) else none

/-- The control characters that have a letter. -/
def controls : List (Char × Char) :=
  [('a', '\x07'), ('f', '\x0c'), ('t', '\t'), ('n', '\n'), ('r', '\r'), ('v', '\x0b')]

/-- The letters of boundaries, with whether words decide about them. -/
def boundaries : List (Char × Bool) :=
  [('A', false), ('z', false), ('b', true), ('B', true), ('<', true), ('>', true)]

/-- Whether a character stands for itself after a backslash: every sign of ASCII that is no
letter, no digit and no angle. -/
def standsForItself (c : Char) : Bool :=
  c.toNat ≤ 0x7F && !c.isAlphanum && c ≠ '<' && c ≠ '>'

/-- Reads the sign after a backslash. Properties and back references are not among them. -/
def readEscaped (m : Mode) : List Char → Option (Sign × List Char)
  | [] => none
  | c :: rest =>
    if c = 'x' then readNumbered m 2 rest
    else if c = 'u' then readNumbered m 4 rest
    else if c = 'U' then readNumbered m 8 rest
    else if ['d', 's', 'w'].contains c then some (.shorthand false, rest)
    else if ['D', 'S', 'W'].contains c then some (.shorthand true, rest)
    else if standsForItself c then some (.literal c false, rest)
    else
      match controls.lookup c, boundaries.lookup c with
      | some control, _ => some (.literal control false, rest)
      | none, some ofWord => some (.boundary ofWord, rest)
      | none, none => none

end Duet.Log.Pattern
