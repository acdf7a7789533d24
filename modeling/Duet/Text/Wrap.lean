/-!
# Breaking lines

A line that is too wide is broken before the first word that does not fit, and so on. Words are
kept whole, and the blanks at a break are dropped. Escape sequences that a terminal acts on take
up no columns.

**Only blanks are lost** where a line is broken, because they are the gaps between words, and a
line holds one word at least, so that a word wider than the line stands alone.
-/

namespace Duet.Text

/-! ## Columns -/

/-- Where a text stands with respect to escape sequences. -/
inductive Escape where
  /-- Outside of any. -/
  | outside
  /-- After the escape character, which takes one more character along. -/
  | begun
  /-- Inside a control sequence, which a character from `@` to `~` ends. -/
  | control
  /-- Inside a command, which a bell ends, or an escape character and a backslash. -/
  | command (escaped : Bool)
  deriving DecidableEq, Repr

/-- The character that begins an escape sequence. -/
def escapeMark : Char := '\x1b'

/-- The bell. -/
def bellMark : Char := '\x07'

/-- Where a text stands after one more character. -/
def Escape.next : Escape → Char → Escape
  | .outside, c => if c = escapeMark then .begun else .outside
  | .begun, c => if c = '[' then .control else if c = ']' then .command false else .outside
  | .control, c => if '@' ≤ c ∧ c ≤ '~' then .outside else .control
  | .command escaped, c =>
    if c = bellMark ∨ (c = '\\' ∧ escaped = true) then .outside
    else .command (c = escapeMark)

/-- The columns a character takes up on its own. -/
def columns (c : Char) : Nat :=
  if c.toNat < 0x1100 then 1 else 2

/-- The columns a text takes up from a given standing: those of the characters outside of escape
sequences. -/
def columnsFrom (e : Escape) : List Char → Nat
  | [] => 0
  | c :: rest =>
    (if e = .outside ∧ c ≠ escapeMark then columns c else 0) + columnsFrom (e.next c) rest

/-- The columns a text takes up. -/
def columnsOf (text : List Char) : Nat :=
  columnsFrom .outside text

/-! ## Words -/

/-- A word of a line, and the number of blanks that follow it. -/
structure Word where
  text : List Char
  gap : Nat
  deriving DecidableEq, Repr

/-- The words of a line. The word under way is held in reverse, and the blanks that follow it
are counted. -/
def wordsFrom (word : List Char) (gap : Nat) : List Char → List Word
  | [] => if word.isEmpty && gap = 0 then [] else [⟨word.reverse, gap⟩]
  | c :: rest =>
    if c = ' ' then wordsFrom word (gap + 1) rest
    else if gap = 0 then wordsFrom (c :: word) 0 rest
    else ⟨word.reverse, gap⟩ :: wordsFrom [c] 0 rest

/-- Words put back together, without the blanks after the last. -/
def joinWords : List Word → List Char
  | [] => []
  | [last] => last.text
  | w :: more => w.text ++ List.replicate w.gap ' ' ++ joinWords more

/-- Fills lines: a word that does not fit in the line under way, which is held in reverse and
takes up `used` columns, begins a new one. -/
def fill (width : Nat) (line : List Word) (used : Nat) : List Word → List (List Word)
  | [] => [line.reverse]
  | w :: more =>
    let size := columnsOf w.text
    if width < used + size && !line.isEmpty then
      line.reverse :: fill width [w] (size + w.gap) more
    else fill width (w :: line) (used + size + w.gap) more

/-- Breaks a line into lines of at most `width` columns, as far as its words allow. -/
def wrap (width : Nat) (line : List Char) : List (List Char) :=
  (fill width [] 0 (wordsFrom [] 0 line)).map joinWords

end Duet.Text
