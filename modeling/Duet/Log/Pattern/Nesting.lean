/-!
# How deep a pattern goes

A group, a repetition, a class in brackets and an operator between two lists put what they hold
one level deeper, and so do several parts in a row and several alternatives. A pattern that goes
too deep is refused. Depths are counted from the inside out while a pattern is read.

**A part that stands alone adds no level** (`Row.depth_push_empty`): only a second part does, so
parentheses around one character count once.
-/

namespace Duet.Log.Pattern

/-- The levels that a pattern may have. -/
def mostLevels : Nat := 250

/-! ## Rows -/

/-- Parts in a row: their number, the depth of the deepest and the depth of the last. -/
structure Row where
  count : Nat := 0
  deepest : Nat := 0
  last : Nat := 0
  deriving DecidableEq, Repr

namespace Row

/-- Adds a part of a depth. -/
def push (r : Row) (depth : Nat) : Row :=
  { count := r.count + 1, deepest := max r.deepest depth, last := depth }

/-- Puts the last part one level deeper. -/
def deepenLast (r : Row) : Row :=
  { r with deepest := max r.deepest (r.last + 1), last := r.last + 1 }

/-- The depth of the parts together. -/
def depth (r : Row) : Nat :=
  if r.count ≤ 1 then r.deepest else r.deepest + 1

theorem depth_push_empty (d : Nat) : (({} : Row).push d).depth = d := by
  simp [push, depth]

end Row

/-! ## Alternatives -/

/-- Alternatives: those before the last, and the parts of the last. -/
structure Branches where
  before : Row := {}
  current : Row := {}
  deriving DecidableEq, Repr

namespace Branches

/-- Adds a part of a depth to the last alternative. -/
def push (b : Branches) (depth : Nat) : Branches :=
  { b with current := b.current.push depth }

/-- Repeats the last part of the last alternative. -/
def repeatLast (b : Branches) : Branches :=
  { b with current := b.current.deepenLast }

/-- Begins another alternative. -/
def split (b : Branches) : Branches :=
  { before := b.before.push b.current.depth }

/-- The depth of the alternatives together. -/
def depth (b : Branches) : Nat :=
  (b.before.push b.current.depth).depth

end Branches

/-! ## Lists of a class -/

/-- A class while it is read: the depth of what stands left of the last operator, and the list
that follows it. -/
structure Listing where
  left? : Option Nat := none
  items : Row := {}
  deriving DecidableEq, Repr

namespace Listing

/-- Adds an item of a depth. -/
def push (l : Listing) (depth : Nat) : Listing :=
  { l with items := l.items.push depth }

/-- The depth of what was read. -/
def depth (l : Listing) : Nat :=
  match l.left? with
  | none => l.items.depth
  | some left => max left l.items.depth + 1

/-- Begins another list after an operator. -/
def operate (l : Listing) : Listing :=
  { left? := some l.depth }

end Listing

end Duet.Log.Pattern
