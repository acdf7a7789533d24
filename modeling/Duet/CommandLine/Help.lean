import Duet.CommandLine.Scan
import Duet.Text.Lines
import Duet.Text.Wrap

/-!
# Help texts

The short help has a line for each flag, with the description in a column of its own; the long
help has the description below the flag. Lines are at most a hundred columns wide, as far as
their words allow. The current value of a flag's variable is shown, and a mark for the end of a
line is one there too.
-/

namespace Duet.CommandLine.Help

/-- The columns of a line. -/
def lineWidth : Nat := 100

/-- The version of the tool. -/
def version : String := "0.0.0"

/-- The line that names the tool and its version. -/
def title : String :=
  toolName ++ " " ++ version ++ "\n"

/-- What the tool does. -/
def purpose : String :=
  "Greets from the calling thread, then from one spawned worker thread, and waits for the worker "
    ++ "to finish"

/-- What the tool does, with all that is to be said about it, a paragraph an item. -/
def paragraphs : List String :=
  [purpose ++ ".",
    "The exit code is 0 when both threads greeted and the worker was joined, 1 when the worker "
      ++ "could not be spawned and 2 when it could not be joined.",
    "Below are options that control logging."]

/-- A text broken into lines of a width. -/
def broken (width : Nat) (text : List Char) : List (List Char) :=
  (Text.lines text).flatMap (Text.wrap width)

/-- A paragraph over the whole width. -/
def paragraph (text : String) : String :=
  String.ofList (List.intercalate ['\n'] (broken lineWidth text.toList)) ++ "\n"

/-! ## Flags -/

/-- The flag with its letter, the letter's place left blank if it has none. -/
def name (f : Flag) : String :=
  (f.short?.map fun c => "-" ++ c.toString ++ ", ").getD "    " ++ f.label

/-- The widest flag that is listed. -/
def widest : Nat :=
  (Flag.listed.map (·.label.length)).foldl max 0

/-- Where a flag's value comes from when it is not given. -/
def sources (env : Scan.Environment) (f : Flag) : List (List Char) :=
  let fromVariable := f.envName?.toList.map fun name =>
    ("[env: " ++ name ++ "=").toList ++ Text.Utf8.lossy ((env name).getD []) ++ [']']
  let standard := f.default?.toList.map fun value => ("[default: " ++ value ++ "]").toList
  fromVariable ++ standard

/-- The description of a flag: what it is for, and the sources of its value after a separator. -/
def description (env : Scan.Environment) (f : Flag) (separator : List Char) : List Char :=
  f.about.toList ++ (sources env f).flatMap (separator ++ ·)

/-- Puts an end of line in place of every mark for one, an `n` between braces. -/
def endMarkedLines : List Char → List Char
  | '\x7b' :: 'n' :: '\x7d' :: rest => '\n' :: endMarkedLines rest
  | c :: rest => c :: endMarkedLines rest
  | [] => []

/-- A description below or beside its flag: broken if it would reach the last column or has a mark
for the end of a line, and every line after the first indented. -/
def indented (indent : Nat) (text : List Char) : String :=
  let ended := endMarkedLines text
  let fitted :=
    if lineWidth ≤ indent + Text.columnsOf text ∨ ended ≠ text then
      List.intercalate ['\n'] (broken (lineWidth - indent) ended)
    else text
  String.ofList (List.intercalate ('\n' :: List.replicate indent ' ') (Text.lines fitted))

/-- The indent of descriptions in the long help. -/
def longIndent : Nat := 12

/-- An entry of the long help. -/
def longEntry (env : Scan.Environment) (f : Flag) : String :=
  "    " ++ name f ++ "\n" ++ String.ofList (List.replicate longIndent ' ')
    ++ indented longIndent (description env f ['\n', '\n']) ++ "\n"

/-- An entry of the short help. -/
def shortEntry (env : Scan.Environment) (f : Flag) : String :=
  let gap := String.ofList (List.replicate (widest - f.label.length + 4) ' ')
  "    " ++ name f ++ gap ++ indented (widest + 12) (description env f [' ']) ++ "\n"

/-- The usage line and the heading of the flags. -/
def usage : String :=
  "\nUSAGE:\n    " ++ UsageError.usage [] ++ "\n\nOPTIONS:\n"

/-- The long help. -/
def long (env : Scan.Environment) : String :=
  title ++ "\n".intercalate (paragraphs.map paragraph) ++ usage
    ++ "\n".intercalate (Flag.listed.map (longEntry env))

/-- The short help. -/
def short (env : Scan.Environment) : String :=
  title ++ paragraph purpose ++ usage ++ String.join (Flag.listed.map (shortEntry env))

/-- The answer to a request. -/
def answer (env : Scan.Environment) : Request → String
  | .shortHelp => short env
  | .longHelp => long env
  | .version => title

end Duet.CommandLine.Help
