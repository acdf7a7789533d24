import Duet.Proofs.Run.Accounting
import Duet.Proofs.Run.Ensemble
import Duet.Proofs.Sink.Sharing
import Duet.Proofs.Text.Appending

/-!
# Greetings to a buffer that has something in it

A buffer may hold any bytes before a greeting is said to it, be they text or not. What it shows is
decoded anew from all its bytes each time it is asked. Greetings come one by one, through any handle
that reaches the buffer, or by runs that have such a handle for their sink (`Act`).

**What the buffer shows afterwards is what it showed before and the greetings that were said, a line
each, in their order; and if it held whole lines, each greeting is one more of its lines**
(`Shelf.contents_playAll`). A run on a buffer is performed against a script that takes everything,
and the buffer gives just the replies that the run went by (`Act.Answered`).

What this does not establish: anything of runs at the same time.
-/

namespace Duet

/-! ## Calls on a sink -/

/-- What is said between a greeting and a sink that takes everything. -/
def Speaker.dialogue (who : Speaker) : List (SinkCall × Reply) :=
  [(.writer, .done 0), (.write who.line, .done who.line.length), (.flush, .done 0)]

/-- An exchange without the thread that made it. -/
def Exchange.spoken (x : Exchange) : SinkCall × Reply :=
  (x.call, x.reply)

theorem Greeter.spoken_perform (thread : Option String) (who : Speaker) :
    ((start who).perform thread {}).exchanges.map Exchange.spoken = who.dialogue := by
  rw [perform_start]
  rfl

namespace Shelf

/-- Makes calls on the sink of a handle one after the other and collects the replies. A writer is
asked of the sink, and the other calls go to the writer that was given last. -/
def make (sink : Nat) (s : Shelf) (writer : Nat) : List SinkCall → Shelf × List Reply
  | [] => (s, [])
  | call :: more =>
    let through := if call = .writer then sink else writer
    let (s, answer) := s.step (.use through call.use)
    let (s, replies) := make sink s (answer.handleOr through) more
    (s, answer.reply :: replies)

/-- **A shelf that went on from another by adding to one buffer**, with the handles of that buffer
still in place. -/
structure Adds (s after : Shelf) (buffer : Nat) (data : List UInt8) : Prop where
  bytes : after.bytes buffer = s.bytes buffer ++ data
  size : after.buffers.length = s.buffers.length
  found : ∀ handle, s.find? handle = some buffer → after.find? handle = some buffer

namespace Adds

theorem refl (s : Shelf) (buffer : Nat) : s.Adds s buffer [] where
  bytes := (List.append_nil _).symm
  size := rfl
  found _ found := found

theorem trans {s middle after : Shelf} {buffer : Nat} {data more : List UInt8}
    (first : s.Adds middle buffer data) (second : middle.Adds after buffer more) :
    s.Adds after buffer (data ++ more) where
  bytes := by rw [second.bytes, first.bytes, List.append_assoc]
  size := second.size.trans first.size
  found handle found := second.found handle (first.found handle found)

/-- **One use** of a handle adds what it writes. -/
theorem step {s : Shelf} {handle buffer : Nat} (inside : buffer < s.buffers.length)
    (found : s.find? handle = some buffer) (what : Use) :
    s.Adds (s.step (.use handle what)).1 buffer what.writes where
  bytes := by
    rw [step_use found]
    split
    · next copies =>
      have nothing : what.writes = [] := by
        cases what <;> first | rfl | cases copies
      rw [nothing, List.append_nil]
      rfl
    · exact bytes_append_self s what.writes inside
  size := by
    rw [step_use found]
    split
    · rfl
    · simp [append]
  found _ stillFound := find?_step stillFound _

end Adds

/-- The answer to a call gives a handle of the same buffer and a reply that all was taken. -/
theorem answer_call {s : Shelf} {handle buffer : Nat} (found : s.find? handle = some buffer)
    (call : SinkCall) :
    let done := s.step (.use handle call.use)
    done.1.find? (done.2.handleOr handle) = some buffer ∧
      done.2.reply = .done call.offered.length := by
  have stepped : s.step (.use handle call.use) = s.use buffer call.use := by
    simp [step, found]
  simp only [stepped]
  cases call with
  | writer =>
    have given : (s.addHandle buffer).find? s.handles.length = some buffer := by
      simp [addHandle, find?]
    exact ⟨given, rfl⟩
  | write data => exact ⟨found, rfl⟩
  | flush => exact ⟨found, rfl⟩

theorem writes_use (call : SinkCall) : call.use.writes = call.offered := by
  cases call <;> rfl

/-- **A row of calls adds what they offer and is replied to in full.** The induction is over the
calls; what carries it is that the writer given last reaches the buffer of the sink. -/
theorem adds_make {s : Shelf} {sink writer buffer : Nat} (inside : buffer < s.buffers.length)
    (reaches : s.find? sink = some buffer) (held : s.find? writer = some buffer)
    (calls : List SinkCall) :
    s.Adds (s.make sink writer calls).1 buffer (calls.flatMap SinkCall.offered) ∧
      (s.make sink writer calls).2 = calls.map fun call => .done call.offered.length := by
  induction calls generalizing s writer with
  | nil => exact ⟨Adds.refl s buffer, rfl⟩
  | cons call calls ih =>
    obtain ⟨through, isThrough⟩ : ∃ h, (if call = .writer then sink else writer) = h := ⟨_, rfl⟩
    have found : s.find? through = some buffer := by
      rw [← isThrough]
      split
      · exact reaches
      · exact held
    have first := Adds.step inside found call.use
    obtain ⟨given, reply⟩ := answer_call found call
    obtain ⟨later, replies⟩ :=
      ih (by rw [first.size]; exact inside) (first.found sink reaches) given
    rw [writes_use] at first
    simp only [make, isThrough]
    refine ⟨first.trans later, ?_⟩
    rw [reply, replies]
    rfl

end Shelf

/-! ## Runs on a sink that takes everything -/

namespace Round

/-- Who greets in a run: the caller, and the worker if one is started that runs its entry. -/
def speakers (launcher : Launcher) (conditions : Conditions) : List Speaker :=
  .caller ::
    match (launcher.spawn .worker conditions.refusal).toOption.bind (·.inner) with
    | some worker => if worker.runsEntry then [.worker] else []
    | none => []

theorem exchanges_cons_launch (first rest : List Exchange) (launcher : Launcher)
    (result : Except Panic Account) (stage : Stage) :
    (Round.mk (first.map .exchange ++ .launch launcher :: rest.map .exchange) result
      stage).exchanges = first ++ rest := by
  simp [exchanges, List.filterMap_append, List.filterMap_map]

/-- **One run** says the dialogues of its speakers and leaves the script as it was. -/
theorem spoken_perform (roster : Roster) (conditions : Conditions) :
    (perform ⟨roster, {}⟩ conditions).exchanges.map Exchange.spoken =
        (speakers roster.current conditions).flatMap Speaker.dialogue ∧
      (perform ⟨roster, {}⟩ conditions).stage = ⟨roster.next, {}⟩ := by
  have calm : Greeter.finished.panic? = none := rfl
  simp only [perform, Script.greet_empty, calm, second, speakers]
  -- The caller's part is the same in all cases, the worker's is its dialogue or nothing.
  have parted (rest : List Exchange) (result : Except Panic Account) (stage : Stage) :
      (Round.mk (((Greeter.start .caller).perform (some Speaker.callingThread) {}).exchanges.map
        .exchange ++ .launch roster.current :: rest.map .exchange) result stage).exchanges.map
          Exchange.spoken = Speaker.caller.dialogue ++ rest.map Exchange.spoken := by
    rw [exchanges_cons_launch, List.map_append, Greeter.spoken_perform]
  cases (roster.current.spawn .worker conditions.refusal).toOption.bind (·.inner) with
  | none => exact ⟨parted [] _ _, rfl⟩
  | some worker =>
    simp only [work]
    split
    · refine ⟨(parted _ _ _).trans ?_, ?_⟩
      · simp only [Script.greet_empty, Greeter.spoken_perform]
        rfl
      · simp only [Script.greet_empty]
    · exact ⟨parted [] _ _, rfl⟩

/-- Runs in a row say the dialogues of their speakers. -/
theorem spoken_performAll (roster : Roster) (conditions : List Conditions) :
    ((performAll ⟨roster, {}⟩ conditions).flatMap exchanges).map Exchange.spoken =
      ((roster.serve conditions).flatMap fun run => speakers run.1 run.2).flatMap
        Speaker.dialogue := by
  induction conditions generalizing roster with
  | nil => rfl
  | cons first more ih =>
    obtain ⟨spoken, left⟩ := spoken_perform roster first
    rw [performAll, left, Roster.serve]
    simp only [List.flatMap_cons, List.map_append, List.flatMap_append, spoken, ih]

end Round

/-! ## Acts -/

/-- What is done with a handle to have greetings said: one greeting, or runs in a row. -/
inductive Act where
  | greet (who : Speaker)
  | runs (roster : Roster) (conditions : List Conditions)
  deriving DecidableEq, Repr

namespace Act

/-- Who greets in an act, in order. -/
def speakers : Act → List Speaker
  | .greet who => [who]
  | .runs roster conditions =>
    (roster.serve conditions).flatMap fun run => Round.speakers run.1 run.2

/-- What the runs of a row exchange with their sink. -/
def exchanges (roster : Roster) (conditions : List Conditions) : List Exchange :=
  (Round.performAll ⟨roster, {}⟩ conditions).flatMap Round.exchanges

/-- The shelf after an act through a handle. -/
def play (s : Shelf) (handle : Nat) : Act → Shelf
  | .greet who => (s.step (.use handle (.greet who))).1
  | .runs roster conditions =>
    (s.make handle handle ((exchanges roster conditions).map (·.call))).1

/-- The replies that runs went by are those that the shelf gives. -/
def Answered (s : Shelf) (handle : Nat) : Act → Prop
  | .greet _ => True
  | .runs roster conditions =>
    (s.make handle handle ((exchanges roster conditions).map (·.call))).2 =
      (exchanges roster conditions).map (·.reply)

/-- **One act** adds the lines of its speakers, and its runs are answered as they were. -/
theorem adds_play {s : Shelf} {handle buffer : Nat} (inside : buffer < s.buffers.length)
    (found : s.find? handle = some buffer) (act : Act) :
    s.Adds (act.play s handle) buffer (act.speakers.flatMap Speaker.line) ∧
      act.Answered s handle := by
  cases act with
  | greet who =>
    have adds := Shelf.Adds.step inside found (.greet who)
    have single : (Act.greet who).speakers.flatMap Speaker.line = who.line := List.append_nil _
    rw [single]
    exact ⟨adds, trivial⟩
  | runs roster conditions =>
    have spoken := Round.spoken_performAll roster conditions
    have calls : (exchanges roster conditions).map (·.call) =
        ((Act.runs roster conditions).speakers.flatMap Speaker.dialogue).map Prod.fst := by
      rw [speakers, ← spoken, List.map_map]
      rfl
    have replies : (exchanges roster conditions).map (·.reply) =
        ((Act.runs roster conditions).speakers.flatMap Speaker.dialogue).map Prod.snd := by
      rw [speakers, ← spoken, List.map_map]
      rfl
    obtain ⟨adds, replied⟩ := Shelf.adds_make inside found found
      ((exchanges roster conditions).map (·.call))
    refine ⟨?_, ?_⟩
    · have offered : ((exchanges roster conditions).map (·.call)).flatMap SinkCall.offered =
          (Act.runs roster conditions).speakers.flatMap Speaker.line := by
        rw [calls, List.flatMap_map, List.flatMap_assoc]
        simp [Speaker.dialogue, SinkCall.offered]
      rw [offered] at adds
      exact adds
    · rw [Answered, replied, calls, replies, List.map_map, List.map_flatMap, List.map_flatMap]
      rfl

end Act

namespace Shelf

/-- The shelf after acts, each through a handle. -/
def playAll (s : Shelf) (acts : List (Nat × Act)) : Shelf :=
  acts.foldl (fun s act => act.2.play s act.1) s

/-- **Acts in a row** add the lines of their speakers. -/
theorem adds_playAll {s : Shelf} {buffer : Nat} (inside : buffer < s.buffers.length)
    {acts : List (Nat × Act)} (reach : ∀ act ∈ acts, s.find? act.1 = some buffer) :
    s.Adds (s.playAll acts) buffer ((acts.flatMap (·.2.speakers)).flatMap Speaker.line) := by
  induction acts generalizing s with
  | nil => exact Adds.refl s buffer
  | cons act acts ih =>
    obtain ⟨found, reach⟩ := List.forall_mem_cons.1 reach
    obtain ⟨first, -⟩ := act.2.adds_play inside found
    have later := ih (s := act.2.play s act.1) (by rw [first.size]; exact inside)
      fun act isIn => first.found act.1 (reach act isIn)
    rw [List.flatMap_cons, List.flatMap_append]
    exact first.trans later

theorem answered_of_playAll {s : Shelf} {buffer : Nat} (inside : buffer < s.buffers.length)
    {before later : List (Nat × Act)} {act : Nat × Act}
    (reach : ∀ other ∈ before ++ act :: later, s.find? other.1 = some buffer) :
    act.2.Answered (s.playAll before) act.1 := by
  have adds := adds_playAll inside fun other isIn => reach other (List.mem_append_left _ isIn)
  have found := adds.found act.1 (reach act (by simp))
  exact (act.2.adds_play (by rw [adds.size]; exact inside) found).2

end Shelf

/-! ## What the buffer shows -/

namespace Speaker

/-- The text of greetings, a line each. -/
def linesText (row : List Speaker) : List Char :=
  (row.map (·.greeting.toList)).flatMap (· ++ ['\n'])

theorem encode_linesText (row : List Speaker) :
    Text.Utf8.encode (linesText row) = row.flatMap line := by
  induction row with
  | nil => rfl
  | cons who row ih =>
    have first : Text.Utf8.encode (who.greeting.toList ++ ['\n']) = who.line := by
      rw [line, Text.Utf8.encodeString, String.toList_append]
      rfl
    rw [List.flatMap_cons, ← ih, ← first, ← Text.Utf8.encode_append]
    rfl

theorem kept_greeting (who : Speaker) : Text.Kept who.greeting.toList := by
  cases who with
  | caller => exact ⟨by decide +kernel, by decide +kernel⟩
  | worker => exact ⟨by decide +kernel, by decide +kernel⟩

theorem lines_linesText (row : List Speaker) :
    Text.lines (linesText row) = row.map (·.greeting.toList) := by
  apply Text.lines_flatMap
  intro line isIn
  obtain ⟨who, -, rfl⟩ := List.mem_map.1 isIn
  exact who.kept_greeting

end Speaker

namespace Shelf

/-- A buffer that is empty or ends in a line feed shows whole lines. -/
theorem ended_contents {s : Shelf} {buffer : Nat}
    (whole : s.bytes buffer = [] ∨ (s.bytes buffer).getLast? = some 10) :
    Text.Ended (s.contents buffer) := by
  rcases whole with empty | last
  · left
    rw [contents, empty]
    rfl
  · right
    obtain ⟨front, shape⟩ := List.getLast?_eq_some_iff.1 last
    have feed : Text.Utf8.encode ['\n'] = [10] := by decide
    refine ⟨Text.Utf8.decodeLossy front, ?_⟩
    rw [contents, shape, ← feed, Text.Utf8.decodeLossy_append_encode]

/-- **Greetings add themselves to what a buffer shows**, whatever it holds, through whichever of its
handles they come, and be they said by themselves or in runs. -/
theorem contents_playAll {s : Shelf} {buffer : Nat} (inside : buffer < s.buffers.length)
    {acts : List (Nat × Act)} (reach : ∀ act ∈ acts, s.find? act.1 = some buffer) :
    let said := acts.flatMap (·.2.speakers)
    (s.playAll acts).contents buffer = s.contents buffer ++ Speaker.linesText said ∧
      (s.bytes buffer = [] ∨ (s.bytes buffer).getLast? = some 10 →
        (s.playAll acts).lines buffer = s.lines buffer ++ said.map (·.greeting.toList)) ∧
      ∀ before act later, acts = before ++ act :: later →
        act.2.Answered (s.playAll before) act.1 := by
  intro said
  have added : (s.playAll acts).contents buffer = s.contents buffer ++ Speaker.linesText said := by
    rw [contents, (adds_playAll inside reach).bytes, ← Speaker.encode_linesText,
      Text.Utf8.decodeLossy_append_encode]
    rfl
  refine ⟨added, ?_, ?_⟩
  · intro whole
    rw [lines, added, Text.lines_append_of_ended (ended_contents whole), Speaker.lines_linesText]
    rfl
  · rintro before act later rfl
    exact answered_of_playAll inside reach

/-- A buffer that ends inside a character, and one with a malformed line: a greeting, then three
runs, of which the second has no worker and the third a worker that says nothing. -/
theorem contents_playAll_malformed :
    let s : Shelf := { buffers := [[0x41, 0xE2, 0x82], [0xFF, 13, 10]], handles := [0, 1, 0, 1] }
    let roster := Roster.ofList
      [.system, .faulty .spawn, .ready .caller { thread := none, runsEntry := false }]
    let acts (first second : Nat) : List (Nat × Act) :=
      [(first, .greet .worker), (second, .runs roster (List.replicate 3 {}))]
    ((∀ act ∈ acts 0 2, s.find? act.1 = some 0) ∧
      (s.playAll (acts 0 2)).contents 0 =
        ("A\uFFFDHello from thread #1\nHello from thread #0\nHello from thread #1\n" ++
          "Hello from thread #0\nHello from thread #0\n").toList) ∧
    (∀ act ∈ acts 3 1, s.find? act.1 = some 1) ∧
      (s.playAll (acts 3 1)).lines 1 =
        ["\uFFFD", "Hello from thread #1", "Hello from thread #0", "Hello from thread #1",
          "Hello from thread #0", "Hello from thread #0"].map String.toList := by
  intro s roster acts
  have first : ∀ act ∈ acts 0 2, s.find? act.1 = some 0 := by decide
  have second : ∀ act ∈ acts 3 1, s.find? act.1 = some 1 := by decide
  refine ⟨⟨first, ?_⟩, second, ?_⟩
  · exact (contents_playAll (by decide) first).1.trans (by decide +kernel)
  · exact ((contents_playAll (by decide) second).2.1 (by decide)).trans (by decide +kernel)

end Shelf

end Duet
