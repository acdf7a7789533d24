import Duet.Text.GraphemeExtend
import Duet.Text.Unprintable

/-!
# Quoted text

A text shown inside a message stands in double quotes, with everything that could be mistaken
for something else written as an escape: the quote and the backslash, the usual controls by
letter, and every character that is unprintable or extends its neighbour by its code.

**Each character is escaped on its own**, so the quoted form of two texts in a row is the
quoted forms in a row, and a reader can undo it from left to right.

What this does not establish: which characters count as unprintable is a matter of the tables,
and nothing here says that two printable characters look different.
-/

namespace Duet.Text

/-! ## Hexadecimal -/

/-- The character of a digit below sixteen, in lower case. -/
def hexChar (d : Nat) : Char :=
  if d < 10 then Char.ofNat ('0'.toNat + d) else Char.ofNat ('a'.toNat + (d - 10))

/-- The hexadecimal numeral of `n` without leading zeros. -/
def hex (n : Nat) : List Char :=
  if n < 16 then [hexChar n] else hex (n / 16) ++ [hexChar (n % 16)]
termination_by n

/-! ## Quoting -/

/-- Whether a character is shown by its code. -/
def isCoded (c : Char) : Bool :=
  isUnprintable c || isGraphemeExtend c

/-- The escaped form of a character. -/
def escapeChar (c : Char) : List Char :=
  if c = '\x00' then ['\\', '0']
  else if c = '\t' then ['\\', 't']
  else if c = '\r' then ['\\', 'r']
  else if c = '\n' then ['\\', 'n']
  else if c = '"' then ['\\', '"']
  else if c = '\\' then ['\\', '\\']
  else if isCoded c then '\\' :: 'u' :: '\x7b' :: hex c.toNat ++ ['\x7d']
  else [c]

/-- A text with every character escaped. -/
def escape (cs : List Char) : List Char :=
  cs.flatMap escapeChar

/-- A text in double quotes. -/
def quote (cs : List Char) : List Char :=
  '"' :: escape cs ++ ['"']

/-- A string in double quotes. -/
def quoteString (s : String) : String :=
  String.ofList (quote s.toList)

theorem escape_append (a b : List Char) : escape (a ++ b) = escape a ++ escape b := by
  simp [escape]

theorem toList_quoteString (s : String) : (quoteString s).toList = quote s.toList := by
  simp [quoteString]

end Duet.Text
