import Duet.CommandLine.Flag

/-!
# What can be wrong with a command line

Each mistake has a first line that names it. What follows depends on the mistake: a hint, a
usage line, and always where to find more.
-/

namespace Duet.CommandLine

/-- A mistake in a command line or in the environment. -/
inductive UsageError where
  /-- An argument that means nothing here. `used` are the flags for the usage line. -/
  | unknown (shown : String) (meant : Option Flag) (used : List Flag)
  /-- A flag without the value it needs. -/
  | noValue (flag : Flag)
  /-- A flag given more than once. -/
  | repeated (flag : Flag)
  /-- A value for a flag that takes none. -/
  | unneededValue (value : String) (flag : Flag) (used : List Flag)
  /-- A text that is not well-formed Unicode. -/
  | malformedText
  /-- A value that is refused. -/
  | badValue (value : List Char) (flag : Flag) (reason : String)
  deriving DecidableEq, Repr

/-- The name of the tool. -/
def toolName : String := "threaded-hello"

namespace UsageError

/-- The usage line: the flags at issue, or what can be given in general. -/
def usage (used : List Flag) : String :=
  if used.isEmpty then toolName ++ " [OPTIONS]"
  else " ".intercalate (toolName :: used.map Flag.label)

/-- The line that names the mistake. -/
def headline : UsageError → String
  | .unknown shown _ _ =>
    "error: Found argument '" ++ shown
      ++ "' which wasn't expected, or isn't valid in this context"
  | .noValue flag =>
    "error: The argument '" ++ flag.label ++ "' requires a value but none was supplied"
  | .repeated flag =>
    "error: The argument '" ++ flag.label
      ++ "' was provided more than once, but cannot be used multiple times"
  | .unneededValue value flag _ =>
    "error: The value '" ++ value ++ "' was provided to '" ++ flag.label
      ++ "' but it wasn't expecting any more values"
  | .malformedText => "error: Invalid UTF-8 was detected in one or more arguments"
  | .badValue value flag reason =>
    "error: Invalid value " ++ String.ofList (Text.quote value) ++ " for '" ++ flag.label ++ "': "
      ++ reason

/-- The flag that may have been meant. -/
def suggestion (flag : Flag) : String :=
  "\n\n\tDid you mean '--" ++ flag.long ++ "'?"

/-- Whether an argument could be taken for a flag. -/
def looksLikeFlag (shown : String) : Bool :=
  shown.toList.head? = some '-'

/-- How to give something as a value that looks like a flag. -/
def valueHint (shown : String) : String :=
  "\n\n\tIf you tried to supply `" ++ shown ++ "` as a value rather than a flag, use `-- "
    ++ shown ++ "`"

/-- The usage line under its title. -/
def titledUsage (used : List Flag) : String :=
  "\n\nUSAGE:\n    " ++ usage used

/-- What stands between the first line and the last. -/
def details : UsageError → String
  | .unknown shown meant used =>
    (meant.map suggestion).getD "" ++ (if looksLikeFlag shown then valueHint shown else "")
      ++ titledUsage used
  | .repeated _ => titledUsage []
  | .malformedText => titledUsage []
  | .unneededValue _ _ used => "\n\n" ++ usage used
  | .noValue _ => ""
  | .badValue _ _ _ => ""

/-- The whole message. -/
def message (e : UsageError) : String :=
  e.headline ++ e.details ++ "\n\nFor more information try --help\n"

end UsageError

end Duet.CommandLine
