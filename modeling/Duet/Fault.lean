import Duet.Text.Layout
import Duet.Text.LowerCase
import Duet.Text.Quoted

/-!
# Faults on purpose

A step of a run can be made to fail on purpose: starting the worker, or waiting for it. A fault
is named by a word, in any case of its letters.
-/

namespace Duet

/-- The step of a run that is made to fail. -/
inductive Fault where
  | spawn
  | join
  deriving DecidableEq, Repr

namespace Fault

/-- The word for a fault. -/
def word : Fault → String
  | .spawn => "spawn"
  | .join => "join"

/-- The name of a fault in debug output. -/
def name : Fault → String
  | .spawn => "Spawn"
  | .join => "Join"

/-- The fault a text names once its letters are lowered. -/
def ofText? (text : List Char) : Option Fault :=
  let lowered := Text.lower text
  if lowered = "spawn".toList then some .spawn
  else if lowered = "join".toList then some .join
  else none

/-- What is said of a text that names no fault. -/
def refusal (text : List Char) : String :=
  "Expected spawn|join, could not parse: " ++ String.ofList (Text.quote text)

/-- Reads a fault, or says why there is none. -/
def read (text : List Char) : Except String Fault :=
  match ofText? text with
  | some fault => .ok fault
  | none => .error (refusal text)

/-- A fault in a field: only the choice of form matters. -/
def layOut (f : Fault) (layout : Text.Layout) : String :=
  match layout.form with
  | .plain => f.word
  | _ => f.name

end Fault

end Duet
