import Duet.SystemError.Number
import Duet.Text.Quoted

/-!
# Errors of the operating system

An operation can fail with a number the system gave, with nothing but a kind, or with a kind
and a message of its own. The kind is what a program may react to; here only interruption is
reacted to, by trying again.
-/

namespace Duet

/-- An error of the operating system. -/
inductive SystemError where
  | numbered (number : Int)
  | bare (kind : ErrorKind)
  | custom (kind : ErrorKind) (text : String)
  deriving DecidableEq, Repr

namespace SystemError

/-! ## Errors met by name -/

/-- No such file or directory. -/
def noEntry : SystemError := .numbered 2

/-- The device is not there. -/
def noDevice : SystemError := .numbered 6

/-- The system has no thread to give right now. -/
def noThread : SystemError := .numbered 11

/-- A part of a path is not a directory. -/
def notDirectory : SystemError := .numbered 20

/-- A directory stands where a file is wanted. -/
def isDirectory : SystemError := .numbered 21

/-- The program is running and cannot be written to. -/
def programBusy : SystemError := .numbered 26

/-- The device is full. -/
def noSpace : SystemError := .numbered 28

/-- A name is longer than the system allows. -/
def nameTooLong : SystemError := .numbered 36

/-! ## Reading an error -/

/-- The kind of an error. -/
def kind : SystemError → ErrorKind
  | .numbered n => kindOfNumber n
  | .bare k => k
  | .custom k _ => k

/-- Whether the operation was only interrupted and may be tried again. -/
def isInterrupted (e : SystemError) : Bool :=
  e.kind = .interrupted

/-- The message of an error. -/
def message : SystemError → String
  | .numbered n => wording n ++ " (os error " ++ Text.intText n ++ ")"
  | .bare k => k.phrase
  | .custom _ text => text

/-- The parts of an error spelled out. -/
def debug : SystemError → String
  | .numbered n =>
    "Os \x7b code: " ++ Text.intText n ++ ", kind: " ++ (kindOfNumber n).name ++ ", message: "
      ++ Text.quoteString (wording n) ++ " \x7d"
  | .bare k => "Kind(" ++ k.name ++ ")"
  | .custom k text =>
    "Custom \x7b kind: " ++ k.name ++ ", error: " ++ Text.quoteString text ++ " \x7d"

end SystemError

end Duet
