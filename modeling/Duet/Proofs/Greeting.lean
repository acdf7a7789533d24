import Duet.Sink.Shelf

/-!
# A greeting to a sink that takes all it is offered

Such a sink is asked for a writer, gets the whole line in one write, and is flushed. Nothing is
offered twice and nothing in part, so the line is never torn, whoever else writes in between.

**The whole line goes out in one write** (`Greeter.Whole.resume`, `Greeter.perform_start`).
-/

namespace Duet

theorem Speaker.line_ne_nil (who : Speaker) : who.line ≠ [] := by
  have feed : Text.Utf8.encodeString "\n" = [10] := by decide
  rw [line_eq, feed]
  simp

namespace Greeter

/-- A greeting before its write, with the line untouched, or after it. -/
inductive Whole (who : Speaker) : Greeter → Prop where
  | opening : Whole who (.opening who.line)
  | writing : Whole who (.writing who.line)
  | flushing : Whole who .flushing
  | finished : Whole who .finished

/-- The lines that a greeting has sent. -/
def sent (who : Speaker) : Greeter → List Speaker
  | .opening _ => []
  | .writing _ => []
  | _ => [who]

theorem offering_line (who : Speaker) : offering who.line = .writing who.line := by
  simp [offering, who.line_ne_nil]

theorem resume_opening (line : List UInt8) (count : Nat) :
    (opening line).resume (.done count) = offering line := rfl

theorem resume_flushing (count : Nat) : flushing.resume (.done count) = .finished := rfl

/-- **One step of a greeting whose call was taken in full**: it stays whole, comes closer to its
end, and what it offered are exactly the lines that it has sent more than before. -/
theorem Whole.resume {who : Speaker} {g : Greeter} {call : SinkCall} (whole : Whole who g)
    (due : g.next = some call) :
    Whole who (g.resume (.done call.offered.length)) ∧
      (g.resume (.done call.offered.length)).distance < g.distance ∧
      ∃ new : Option Speaker,
        (g.resume (.done call.offered.length)).sent who = g.sent who ++ new.toList ∧
          call.offered = new.toList.flatMap Speaker.line := by
  cases whole with
  | opening =>
    obtain rfl : SinkCall.writer = call := by simpa [next] using due
    rw [resume_opening, offering_line]
    exact ⟨.writing, by simp [distance], none, rfl, rfl⟩
  | writing =>
    obtain rfl : SinkCall.write who.line = call := by simpa [next] using due
    rw [SinkCall.offered, resume_writing_all]
    exact ⟨.flushing, by simp [distance], some who, rfl, by simp⟩
  | flushing =>
    obtain rfl : SinkCall.flush = call := by simpa [next] using due
    rw [resume_flushing]
    exact ⟨.finished, by simp [distance], none, rfl, rfl⟩
  | finished => simp [next] at due

/-- A whole greeting that has no call to make is finished. -/
theorem Whole.eq_finished {who : Speaker} {g : Greeter} (whole : Whole who g)
    (idle : g.next = none) : g = .finished := by
  cases whole with
  | finished => rfl
  | opening => simp [next] at idle
  | writing => simp [next] at idle
  | flushing => simp [next] at idle

/-- A greeting against a script that is used up: three calls, the line in the middle one. -/
theorem perform_start (thread : Option String) (who : Speaker) :
    (start who).perform thread {} =
      { greeter := .finished
        exchanges :=
          [⟨thread, .writer, .done 0⟩, ⟨thread, .write who.line, .done who.line.length⟩,
            ⟨thread, .flush, .done 0⟩]
        queues := {} } := by
  have reply (call : SinkCall) :
      ({} : Queues).reply call = .done call.offered.length := by
    cases call <;> rfl
  have after (call : SinkCall) : ({} : Queues).after call = {} := by
    cases call <;> rfl
  rw [start, perform]
  simp only [next, reply, after]
  rw [resume_opening, offering_line, perform]
  simp only [next, reply, after]
  rw [SinkCall.offered, resume_writing_all, perform]
  simp only [next, reply, after]
  rw [resume_flushing, perform]
  simp [next, SinkCall.offered]

theorem taken_perform_start (thread : Option String) (who : Speaker) :
    ((start who).perform thread {}).exchanges.flatMap Exchange.taken = who.line := by
  simp [perform_start, Exchange.taken]

end Greeter

/-- A greeting to a script that is used up leaves it so, on whatever thread. -/
theorem Script.greet_empty (thread : Option String) (who : Speaker) :
    greet {} thread who =
      (.finished, ((Greeter.start who).perform thread {}).exchanges, {}) := by
  unfold greet
  split <;> simp [Greeter.perform_start]

theorem Speaker.said_eq (who : Speaker) : who.said = who.line :=
  Greeter.taken_perform_start none who

end Duet
