import Duet.Text.Decimal

/-!
# Laying out a number in a field

A directive such as `{:+05}` says how a value is written into a field: fill character and
alignment, a forced sign, zero filling, the least width, and whether the plain or the debug
form is wanted. Numbers obey all of it; words ignore everything but the choice of form.

**A number's text is padded to the width and never cut.** A precision is read and ignored,
because whole numbers have no digits after a point.
-/

namespace Duet.Text

/-- Where a value stands in a field wider than itself. -/
inductive Alignment where
  | left
  | centre
  | right
  deriving DecidableEq, Repr

/-- Which of the two renderings of a value is asked for. -/
inductive Form where
  | plain
  | debug
  | pretty
  deriving DecidableEq, Repr

/-- How a value is laid out in a field. -/
structure Layout where
  fill : Char := ' '
  alignment : Option Alignment := none
  plus : Bool := false
  alternate : Bool := false
  zeros : Bool := false
  width : Nat := 0
  form : Form := .plain
  deriving DecidableEq, Repr

namespace Layout

/-! ## Reading a directive -/

/-- The alignment a character asks for. -/
def alignmentOf? : Char → Option Alignment
  | '<' => some .left
  | '^' => some .centre
  | '>' => some .right
  | _ => none

/-- Reads a fill character with its alignment, or an alignment alone. -/
def readAlignment (layout : Layout) : List Char → Layout × List Char
  | a :: b :: rest =>
    match alignmentOf? b with
    | some side => ({ layout with fill := a, alignment := some side }, rest)
    | none =>
      match alignmentOf? a with
      | some side => ({ layout with alignment := some side }, b :: rest)
      | none => (layout, a :: b :: rest)
  | [a] =>
    match alignmentOf? a with
    | some side => ({ layout with alignment := some side }, [])
    | none => (layout, [a])
  | [] => (layout, [])

/-- Reads the flags `+`, `#` and `0`, in this order. -/
def readFlags (layout : Layout) (cs : List Char) : Layout × List Char :=
  let (plus, cs) := match cs with
    | '+' :: rest => (true, rest)
    | _ => (false, cs)
  let (alternate, cs) := match cs with
    | '#' :: rest => (true, rest)
    | _ => (false, cs)
  let (zeros, cs) := match cs with
    | '0' :: rest => (true, rest)
    | _ => (false, cs)
  ({ layout with plus, alternate, zeros }, cs)

/-- Reads the width, skips the precision and decides the form. -/
def readWidth (layout : Layout) (cs : List Char) : Option Layout :=
  let width := numeralValue 0 (cs.takeWhile isDigit)
  let rest := match cs.dropWhile isDigit with
    | '.' :: more => more.dropWhile isDigit
    | more => more
  let shown := if layout.alternate then Form.pretty else Form.debug
  match rest with
  | [] => some { layout with width }
  | ['?'] => some { layout with width, form := shown }
  | ['x', '?'] => some { layout with width, form := shown }
  | _ => none

/-- The layout a directive between braces asks for. -/
def read? (directive : String) : Option Layout :=
  match directive.toList with
  | ['\x7b', '\x7d'] => some {}
  | '\x7b' :: ':' :: rest =>
    match rest.reverse with
    | '\x7d' :: body =>
      let (layout, cs) := readAlignment {} body.reverse
      let (layout, cs) := readFlags layout cs
      readWidth layout cs
    | _ => none
  | _ => none

/-! ## Writing a number -/

/-- Pads `body` to the width with the fill character; numbers stand right by default, and a
centred number has the odd blank after it. -/
def pad (layout : Layout) (body : List Char) : List Char :=
  let gap := layout.width - body.length
  match layout.alignment.getD .right with
  | .left => body ++ List.replicate gap layout.fill
  | .right => List.replicate gap layout.fill ++ body
  | .centre => List.replicate (gap / 2) layout.fill ++ body
      ++ List.replicate (gap - gap / 2) layout.fill

/-- A natural number in its field: zeros stand between the sign and the digits. -/
def number (layout : Layout) (n : Nat) : List Char :=
  let sign := if layout.plus then ['+'] else []
  let digits := decimal n
  if layout.zeros then
    sign ++ List.replicate (layout.width - (sign.length + digits.length)) '0' ++ digits
  else layout.pad (sign ++ digits)

/-- Padding to a width never shortens a text. -/
theorem length_le_pad (layout : Layout) (body : List Char) :
    body.length ≤ (layout.pad body).length := by
  simp only [pad]
  cases layout.alignment.getD .right with
  | left => simp
  | right => simp
  | centre =>
    simp only [List.length_append, List.length_replicate]
    omega

end Layout

end Duet.Text
