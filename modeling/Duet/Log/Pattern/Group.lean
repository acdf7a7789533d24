import Duet.Log.Pattern.Sign
import Duet.Text.Numeric

/-!
# How a group begins

An opening parenthesis begins a group, which may have a name or change the mode for what is in it,
or stands for nothing but a change of mode up to the end of the group around it. Looking ahead or
behind is not possible.
-/

namespace Duet.Log.Pattern

/-- What an opening parenthesis turns out to be. -/
inductive Opening where
  /-- A group, with its name if it has one, read in a mode. -/
  | group (name : Option (List Char)) (mode : Mode)
  /-- A change of mode. -/
  | change (mode : Mode)
  deriving DecidableEq, Repr

/-- Whether a character may be part of a name. -/
def isNameChar (isFirst : Bool) (c : Char) : Bool :=
  if isFirst then c = '_' || Text.isAlphabetic c
  else ['_', '.', '[', ']'].contains c || Text.isAlphanumeric c

/-- Whether a text is a name. -/
def isName : List Char → Bool
  | [] => false
  | c :: rest => isNameChar true c && rest.all (isNameChar false)

/-- Reads a name up to the angle that ends it. -/
def readName (text : List Char) : Option (List Char × List Char) :=
  let name := text.takeWhile (· ≠ '>')
  match text.dropWhile (· ≠ '>') with
  | _ :: rest => if isName name then some (name, rest) else none
  | [] => none

/-- Reads letters that change the mode, up to a colon or a closing parenthesis, given those read
already. One hyphen turns off what follows it, of which there has to be something; no letter comes
twice. -/
def readLetters (m : Mode) (seen : List Char) : List Char → Option (Opening × List Char)
  | [] => none
  | c :: rest =>
    if c = ':' then if seen.head? = some '-' then none else some (.group none m, rest)
    else if c = ')' then
      if seen.isEmpty || seen.head? = some '-' then none else some (.change m, rest)
    else if seen.contains c then none
    else if c = '-' then readLetters m (c :: seen) rest
    else (m.set? c (!seen.contains '-')).bind fun m => readLetters m (c :: seen) rest

/-- Reads what follows an opening parenthesis, in the mode outside of it. -/
def readGroup (m : Mode) (text : List Char) : Option (Opening × List Char) :=
  match m.skip text with
  | '?' :: '=' :: _ => none
  | '?' :: '!' :: _ => none
  | '?' :: '<' :: '=' :: _ => none
  | '?' :: '<' :: '!' :: _ => none
  | '?' :: 'P' :: '<' :: rest => (readName rest).map fun (name, rest) => (.group name m, rest)
  | '?' :: '<' :: rest => (readName rest).map fun (name, rest) => (.group name m, rest)
  | '?' :: rest => readLetters m [] rest
  | rest => some (.group none m, rest)

end Duet.Log.Pattern
