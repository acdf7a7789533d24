import Duet.Text.Decimal
import Duet.Text.Layout
import Duet.Text.Utf8

/-!
# The two speakers

A run has two speakers: the calling thread, which is number 0, and the one worker it starts,
which is number 1. Each has one line to say.

**A line ends in its only line feed**, so whole lines never run into each other
(`Speaker.line_eq`).
-/

namespace Duet

/-- The calling thread, or the worker it starts. -/
inductive Speaker where
  | caller
  | worker
  deriving DecidableEq, Repr

namespace Speaker

/-- The number a speaker greets with. -/
def number : Speaker → Nat
  | .caller => 0
  | .worker => 1

/-- The number as text. -/
def numeral (s : Speaker) : String :=
  Text.natText s.number

/-- What every greeting starts with. -/
def greetingStart : String := "Hello from thread #"

/-- The greeting of a speaker, without the end of the line. -/
def greeting (s : Speaker) : String :=
  greetingStart ++ s.numeral

/-- The bytes a speaker sends: the greeting and a line feed. -/
def line (s : Speaker) : List UInt8 :=
  Text.Utf8.encodeString (s.greeting ++ "\n")

/-- The name a thread gets that is started for the speaker. -/
def threadName (s : Speaker) : String :=
  "hello-worker-" ++ s.numeral

/-- The name of the thread a program starts on. -/
def callingThread : String := "main"

theorem line_eq (s : Speaker) :
    s.line = Text.Utf8.encodeString s.greeting ++ Text.Utf8.encodeString "\n" := by
  simp [line, Text.Utf8.encodeString, Text.Utf8.encode_append]

/-! ## Renderings -/

/-- The speaker's number with its type around it. -/
def debug (s : Speaker) : String :=
  "ThreadNum(" ++ s.numeral ++ ")"

/-- The number of a speaker laid out in a field; the debug forms wrap the field. -/
def layOut (s : Speaker) (layout : Text.Layout) : String :=
  let field := String.ofList (layout.number s.number)
  match layout.form with
  | .plain => field
  | .debug => "ThreadNum(" ++ field ++ ")"
  | .pretty => "ThreadNum(\n    " ++ field ++ ",\n)"

end Speaker

end Duet
