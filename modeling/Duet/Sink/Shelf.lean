import Duet.Sink.Script
import Duet.Text.Lines

/-!
# Buffers and their handles

A buffer keeps what is written to it and can be reached through any number of handles. A shelf
holds buffers and numbered handles: a new handle gets a fresh buffer, a copy of a handle and a
writer made from it reach the buffer that it reaches.

**A step changes at most the buffer it names** (`Shelf.bytes_append_of_ne`), and handles of one
buffer see the same bytes.
-/

namespace Duet

/-- The bytes that a greeting leaves in a buffer, which takes all it is offered. -/
def Speaker.said (who : Speaker) : List UInt8 :=
  ((Greeter.start who).perform none {}).exchanges.flatMap Exchange.taken

/-- Buffers, and for each handle the buffer it reaches. -/
structure Shelf where
  buffers : List (List UInt8) := []
  handles : List Nat := []
  deriving DecidableEq, Repr

namespace Shelf

/-! ## Buffers -/

/-- The buffer a handle reaches. -/
def find? (s : Shelf) (handle : Nat) : Option Nat :=
  s.handles[handle]?

/-- The bytes of a buffer. -/
def bytes (s : Shelf) (buffer : Nat) : List UInt8 :=
  s.buffers.getD buffer []

/-- The text of a buffer. -/
def contents (s : Shelf) (buffer : Nat) : List Char :=
  Text.Utf8.decodeLossy (s.bytes buffer)

/-- The lines of a buffer. -/
def lines (s : Shelf) (buffer : Nat) : List (List Char) :=
  Text.lines (s.contents buffer)

/-- Adds bytes at the end of a buffer. -/
def append (s : Shelf) (buffer : Nat) (data : List UInt8) : Shelf :=
  { s with buffers := s.buffers.modify buffer (· ++ data) }

/-- Adds a handle for a buffer. -/
def addHandle (s : Shelf) (buffer : Nat) : Shelf :=
  { s with handles := s.handles ++ [buffer] }

/-- Adds an empty buffer with a handle. -/
def addBuffer (s : Shelf) : Shelf :=
  { buffers := s.buffers ++ [[]], handles := s.handles ++ [s.buffers.length] }

theorem bytes_append_of_ne (s : Shelf) {a b : Nat} (data : List UInt8) (ne : a ≠ b) :
    (s.append a data).bytes b = s.bytes b := by
  simp [append, bytes, List.getD_eq_getElem?_getD, ne]

theorem bytes_append_self (s : Shelf) {a : Nat} (data : List UInt8) (lt : a < s.buffers.length) :
    (s.append a data).bytes a = s.bytes a ++ data := by
  simp [append, bytes, List.getD_eq_getElem?_getD, lt]

/-! ## Steps -/

/-- Something done with a handle. -/
inductive Use where
  /-- Another handle of the same buffer. -/
  | clone
  /-- A writer of the same buffer, which is a handle too. -/
  | writer
  | write (data : List UInt8)
  | writeAll (data : List UInt8)
  /-- Writes the first part that has bytes. -/
  | writeVectored (parts : List (List UInt8))
  | flush
  | greet (who : Speaker)
  | contents
  | lines
  deriving DecidableEq, Repr

/-- A step: a fresh buffer, or something done with a handle. -/
inductive Step where
  | new
  | use (handle : Nat) (what : Use)
  deriving DecidableEq, Repr

/-- What a step that may write gives back. -/
inductive Result where
  | count (written : Nat)
  | done
  | nothing
  deriving DecidableEq, Repr

/-- The answer to a step. -/
inductive Answer where
  | handle (number : Nat)
  | written (result : Result) (contents : List Char)
  | contents (text : List Char)
  | lines (lines : List (List Char))
  | noSuchHandle
  deriving DecidableEq, Repr

/-- The bytes a use adds to the buffer. -/
def Use.added : Use → List UInt8
  | .write data => data
  | .writeAll data => data
  | .writeVectored parts => (parts.find? (!·.isEmpty)).getD []
  | .greet who => who.said
  | _ => []

/-- What a use gives back besides the contents. -/
def Use.result : Use → Result
  | .write data => .count data.length
  | .writeVectored parts => .count (Use.writeVectored parts).added.length
  | .writeAll _ => .done
  | .flush => .done
  | _ => .nothing

/-- Does something with a handle of a buffer. -/
def use (s : Shelf) (buffer : Nat) : Use → Shelf × Answer
  | .clone => (s.addHandle buffer, .handle s.handles.length)
  | .writer => (s.addHandle buffer, .handle s.handles.length)
  | .contents => (s, .contents (s.contents buffer))
  | .lines => (s, .lines (s.lines buffer))
  | what =>
    let after := s.append buffer what.added
    (after, .written what.result (after.contents buffer))

/-- Takes a step. -/
def step (s : Shelf) : Step → Shelf × Answer
  | .new => (s.addBuffer, .handle s.handles.length)
  | .use handle what =>
    match s.find? handle with
    | some buffer => s.use buffer what
    | none => (s, .noSuchHandle)

/-- Takes steps in order and collects the answers. -/
def run (s : Shelf) : List Step → Shelf × List Answer
  | [] => (s, [])
  | first :: more =>
    let (s, answer) := s.step first
    let (s, answers) := s.run more
    (s, answer :: answers)

end Shelf

end Duet
