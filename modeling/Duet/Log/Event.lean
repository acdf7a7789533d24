import Duet.Text.Decimal

/-!
# What gets logged

An event has a severity, the part of the program it comes from, and a message. A level says
which severities are of interest: none, or all down to a given one. The part of a run that can
be told from the rest by the log is a span, named `run`.

**A level admits exactly the events that are at least as severe as it names**
(`Level.admits_mono`).
-/

namespace Duet.Log

/-! ## Severities and levels -/

/-- How severe an event is. -/
inductive Severity where
  | error
  | warn
  | info
  | debug
  | trace
  deriving DecidableEq, Repr

namespace Severity

/-- The place in the order from most to least severe, counted from one. -/
def rank : Severity → Nat
  | .error => 1
  | .warn => 2
  | .info => 3
  | .debug => 4
  | .trace => 5

/-- The name on log lines. -/
def name : Severity → String
  | .error => "ERROR"
  | .warn => "WARN"
  | .info => "INFO"
  | .debug => "DEBUG"
  | .trace => "TRACE"

end Severity

/-- How much is of interest: everything up to a rank, nothing at zero. -/
inductive Level where
  | off
  | upTo (least : Severity)
  deriving DecidableEq, Repr

namespace Level

/-- The number of a level. -/
def rank : Level → Nat
  | .off => 0
  | .upTo s => s.rank

/-- The word for a level. -/
def word : Level → String
  | .off => "off"
  | .upTo .error => "error"
  | .upTo .warn => "warn"
  | .upTo .info => "info"
  | .upTo .debug => "debug"
  | .upTo .trace => "trace"

/-- The levels in the order of their numbers. -/
def all : List Level :=
  [.off, .upTo .error, .upTo .warn, .upTo .info, .upTo .debug, .upTo .trace]

/-- Whether events of a severity are of interest. -/
def admits (l : Level) (s : Severity) : Bool :=
  s.rank ≤ l.rank

/-- The level of everything. -/
def everything : Level := .upTo .trace

/-- The level with a number. -/
def ofRank? (n : Nat) : Option Level :=
  all[n]?

/-- Lowers the ASCII letters of a text. -/
def lowerAscii (cs : List Char) : List Char :=
  cs.map Char.toLower

/-- Reads a level: a number, a word in any case, or nothing, which stands for errors only. -/
def read? (text : List Char) : Option Level :=
  match (Text.readUnsigned 0xFFFF_FFFF_FFFF_FFFF text).toOption.bind ofRank? with
  | some level => some level
  | none =>
    if text.isEmpty then some (.upTo .error)
    else all.find? (·.word.toList = lowerAscii text)

/-- What is said of a text that is no level. -/
def refusal : String :=
  "error parsing level filter: expected one of \"off\", \"error\", \"warn\", \"info\", \"debug\", "
    ++ "\"trace\", or a number 0-5"

theorem admits_mono {l : Level} {a b : Severity} (h : l.admits b = true) (le : a.rank ≤ b.rank) :
    l.admits a = true := by
  simp only [admits, decide_eq_true_eq] at h ⊢
  omega

end Level

/-! ## Events -/

/-- The part of the program an event comes from. -/
inductive Origin where
  /-- The two greetings of a run. -/
  | runner
  /-- Starting threads and waiting for them. -/
  | spawner
  /-- The command line's loop over runs. -/
  | command
  deriving DecidableEq, Repr

/-- The name of an origin on log lines. -/
def Origin.target : Origin → String
  | .runner => "threaded_hello::runner"
  | .spawner => "threaded_hello::spawner"
  | .command => "threaded_hello::run"

/-- Something worth logging. -/
structure Event where
  severity : Severity
  origin : Origin
  message : String
  deriving DecidableEq, Repr

/-- The name of the span that covers a run. -/
def runSpan : String := "run"

/-- The severity of the span that covers a run. -/
def runSpanSeverity : Severity := .info

/-- The origin of the span that covers a run. -/
def runSpanOrigin : Origin := .runner

/-- An event that was let through, and whether it is shown inside the span of a run. -/
structure Shown where
  event : Event
  inSpan : Bool
  deriving DecidableEq, Repr

/-- The events of a run that a level lets through; the span itself is subject to it. -/
def Level.show (l : Level) (insideRun : Bool) (events : List Event) : List Shown :=
  (events.filter (l.admits ·.severity)).map (⟨·, insideRun && l.admits runSpanSeverity⟩)

/-- A text moved to the right end of a field. -/
def rightIn (width : Nat) (text : String) : String :=
  String.ofList (List.replicate (width - text.length) ' ') ++ text

/-- The part of a log line that follows the time. -/
def Shown.line (thread : String) (s : Shown) : String :=
  rightIn 5 s.event.severity.name ++ " " ++ thread ++ " "
    ++ (if s.inSpan then runSpan ++ ": " else "")
    ++ s.event.origin.target ++ ": " ++ s.event.message ++ "\n"

end Duet.Log
