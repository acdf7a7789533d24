import Duet.Proofs.Text.Quoting
import Duet.Tool.Program

/-!
# Messages about texts that were given

Three messages of the tool repeat a text that came from outside: the word that names no fault, and
the paths of a summary file and of a log file that cannot be made. Each says what is the matter and
then quotes the text, whatever that holds.

**A given text can neither end its message nor start another**: no control character gets through,
no quote but the last closes, and two messages that begin alike, with anything after them, are the
same message about the same text (`Tool.Notice.message_unforgeable`).

What this does not establish: that two texts look different. Characters that print alike are left as
they are.
-/

namespace Duet.Tool

/-- The messages that quote a given text. -/
inductive Notice where
  | unknownFault
  | summaryFile
  | logFile
  deriving DecidableEq, Repr

namespace Notice

/-- What a message says before it quotes. -/
def lead : Notice → String
  | .unknownFault => "Expected spawn|join, could not parse: "
  | .summaryFile => "Failed to create summary file "
  | .logFile => "Failed to open log file "

/-- The message about a text, as it is said where a fault is read, where the summary is saved and
where the log is opened. -/
def message : Notice → List Char → String
  | .unknownFault => Fault.refusal
  | .summaryFile => Program.aboutFile "Failed to create summary file"
  | .logFile => Program.aboutFile "Failed to open log file"

theorem toList_aboutFile (what : String) (path : List Char) :
    (Program.aboutFile what path).toList = (what ++ " ").toList ++ Text.quote path := by
  rw [Program.aboutFile, String.toList_append, String.toList_ofList]

theorem toList_message (n : Notice) (text : List Char) :
    (n.message text).toList = n.lead.toList ++ Text.quote text := by
  cases n with
  | unknownFault =>
    show (lead .unknownFault ++ String.ofList (Text.quote text)).toList = _
    rw [String.toList_append, String.toList_ofList]
  | summaryFile => exact toList_aboutFile "Failed to create summary file" text
  | logFile => exact toList_aboutFile "Failed to open log file" text

/-- The three messages differ before they quote, and none breaks off there. -/
theorem lead_append_inj {n n' : Notice} {x y : List Char}
    (same : n.lead.toList ++ x = n'.lead.toList ++ y) : n = n' ∧ x = y := by
  have long (n : Notice) : 11 ≤ n.lead.toList.length := by
    cases n <;> decide
  have starts := congrArg (List.take 11) same
  rw [List.take_append_of_le_length (long n), List.take_append_of_le_length (long n')] at starts
  have notices : n = n' := by
    revert starts
    cases n <;> cases n' <;> decide
  subst notices
  exact ⟨rfl, List.append_cancel_left same⟩

/-- Messages are told apart by their beginnings. -/
theorem message_append_inj {n n' : Notice} {text text' : List Char} {x x' : String}
    (same : n.message text ++ x = n'.message text' ++ x') : n = n' ∧ text = text' ∧ x = x' := by
  have lists := congrArg String.toList same
  rw [String.toList_append, String.toList_append, toList_message, toList_message,
    List.append_assoc, List.append_assoc] at lists
  obtain ⟨notices, quoted⟩ := lead_append_inj lists
  obtain ⟨texts, follows⟩ := Text.quote_append_inj quoted
  exact ⟨notices, texts, String.toList_inj.1 follows⟩

theorem isCoded_of_mem_message {n : Notice} {text : List Char} {c : Char}
    (isIn : c ∈ (n.message text).toList) : Text.isCoded c = false := by
  rw [toList_message] at isIn
  rcases List.mem_append.1 isIn with said | quoted
  · have printing : n.lead.toList.all (fun c => Text.IsPrinting c) = true := by
      cases n <;> decide
    exact Text.isCoded_of_isPrinting (of_decide_eq_true (List.all_eq_true.1 printing c said))
  · exact Text.isCoded_of_mem_quote quoted

/-- **What a message makes of any text.** It ends with the text in quotes, in which every quote is
escaped; it has no control character, and none that should have been escaped; and nothing else that
the tool says about a text can be mistaken for it, whatever follows. -/
theorem message_unforgeable (n : Notice) (text : List Char) :
    (n.message text).toList = n.lead.toList ++ '"' :: Text.escape text ++ ['"'] ∧
    Text.Sealed (Text.escape text) ∧
    (∀ c ∈ (n.message text).toList, ¬ Text.IsControl c ∧ Text.isCoded c = false) ∧
    ∀ (n' : Notice) (text' : List Char) (x x' : String),
      n.message text ++ x = n'.message text' ++ x' ↔ n = n' ∧ text = text' ∧ x = x' := by
  refine ⟨?_, Text.sealed_escape text, ?_, ?_⟩
  · rw [toList_message, Text.quote, List.append_assoc]
  · intro c isIn
    have uncoded := isCoded_of_mem_message isIn
    exact ⟨Text.not_isControl uncoded, uncoded⟩
  · intro n' text' x x'
    constructor
    · exact message_append_inj
    · rintro ⟨rfl, rfl, rfl⟩
      rfl

/-- A path that would end the quotes and the line, and two that differ in a line feed and what is
written for it. -/
theorem message_unforgeable_broken :
    logFile.message "a\"\nError: b".toList = "Failed to open log file \"a\\\"\\nError: b\"" ∧
    (∀ c ∈ (logFile.message "a\"\nError: b".toList).toList, ¬ Text.IsControl c) ∧
    logFile.message "a\n".toList ≠ logFile.message "a\\n".toList := by
  refine ⟨by decide +kernel, fun c isIn => ((message_unforgeable _ _).2.2.1 c isIn).1, ?_⟩
  intro same
  have texts := ((message_unforgeable logFile "a\n".toList).2.2.2 logFile _ "" "").1
    (congrArg (· ++ "") same)
  exact absurd texts.2.1 (by decide)

end Notice

end Duet.Tool
