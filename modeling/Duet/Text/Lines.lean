/-!
# Lines

A text is cut at its line feeds. A carriage return directly before a line feed belongs to the
line's end; a last line without a line feed keeps it. No empty line follows the last line feed.
-/

namespace Duet.Text

/-- A reversed line without the carriage return that ends it. -/
def dropReturn : List Char → List Char
  | '\r' :: rest => rest
  | line => line

/-- Cuts a text into lines, with the line under way held in reverse. -/
def linesFrom (line : List Char) : List Char → List (List Char)
  | [] => if line.isEmpty then [] else [line.reverse]
  | c :: cs =>
    if c = '\n' then (dropReturn line).reverse :: linesFrom [] cs
    else linesFrom (c :: line) cs

/-- The lines of a text. -/
def lines (text : List Char) : List (List Char) :=
  linesFrom [] text

end Duet.Text
