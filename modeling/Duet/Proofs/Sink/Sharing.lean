import Duet.Proofs.Greeting
import Mathlib.Data.List.Induction
import Mathlib.Logic.Relation

/-!
# Which handles share a buffer

Handles of a shelf come from nowhere, or are made from another handle, as a copy or as a writer.
What was made from what is all there is to sharing: two handles reach the same buffer exactly if
they are connected by such steps, and a buffer holds what was written through the handles that are
connected, in the order of the steps.

The history of a shelf is the list of its steps. How many handles it has made, which of them are
connected and what was written through them is read off the history here, without buffers
(`made`, `Connected`, `written`).

**A handle shows what was written through the handles connected to it, all of it and nothing
else** (`Shelf.shown_of_history`).
-/

namespace Duet.Shelf

/-! ## Histories -/

/-- Whether a use makes one more handle. -/
def Use.copies : Use → Bool
  | .clone => true
  | .writer => true
  | _ => false

/-- What a use writes: all its bytes, the first part that has some, or a whole line. -/
def Use.writes : Use → List UInt8
  | .write data => data
  | .writeAll data => data
  | .writeVectored parts => (parts.filter (· ≠ [])).headD []
  | .greet who => who.line
  | _ => []

namespace Step

/-- How many handles there are after a step, given how many there were. -/
def made (known : Nat) : Step → Nat
  | .new => known + 1
  | .use handle what => if handle < known ∧ what.copies then known + 1 else known

/-- What a step writes through certain handles; a handle that is not known writes nothing. -/
def writes (through : Nat → Bool) (known : Nat) : Step → List UInt8
  | .new => []
  | .use handle what => if handle < known ∧ through handle then what.writes else []

end Step

/-- How many handles there are after steps, given how many there were. -/
def madeFrom (known : Nat) (steps : List Step) : Nat :=
  steps.foldl Step.made known

/-- How many handles a history has made. They are numbered in the order in which they were made. -/
def made (history : List Step) : Nat :=
  madeFrom 0 history

/-- What steps write through certain handles, in order. -/
def writtenFrom (through : Nat → Bool) (known : Nat) : List Step → List UInt8
  | [] => []
  | step :: more => step.writes through known ++ writtenFrom through (step.made known) more

/-- What was written in a history through certain handles, in order. -/
def written (history : List Step) (through : Nat → Bool) : List UInt8 :=
  writtenFrom through 0 history

/-- A handle was made from another one. -/
inductive Copied (history : List Step) : Nat → Nat → Prop where
  | here {before after : List Step} {handle : Nat} {what : Use}
    (split : history = before ++ .use handle what :: after) (known : handle < made before)
    (copies : what.copies = true) : Copied history handle (made before)

/-- Two handles are connected by the steps that made handles from handles. -/
def Connected (history : List Step) : Nat → Nat → Prop :=
  Relation.EqvGen (Copied history)

/-! ## Histories that go on -/

theorem made_concat (history : List Step) (step : Step) :
    made (history ++ [step]) = step.made (made history) := by
  simp [made, madeFrom]

theorem Step.le_made (known : Nat) (step : Step) : known ≤ step.made known := by
  cases step with
  | new => exact Nat.le_succ known
  | use handle what =>
    rw [made]
    split <;> omega

theorem le_madeFrom (known : Nat) (steps : List Step) : known ≤ madeFrom known steps := by
  induction steps generalizing known with
  | nil => exact Nat.le_refl known
  | cons step more ih => exact Nat.le_trans (step.le_made known) (ih _)

theorem writtenFrom_concat (through : Nat → Bool) (known : Nat) (steps : List Step) (step : Step) :
    writtenFrom through known (steps ++ [step])
      = writtenFrom through known steps ++ step.writes through (madeFrom known steps) := by
  induction steps generalizing known with
  | nil => simp [writtenFrom, madeFrom]
  | cons first more ih =>
    rw [List.cons_append, writtenFrom, ih, writtenFrom, List.append_assoc]
    rfl

/-- Only handles that have been made count. -/
theorem writtenFrom_congr {one other : Nat → Bool} {known : Nat} {steps : List Step}
    (same : ∀ handle < madeFrom known steps, one handle = other handle) :
    writtenFrom one known steps = writtenFrom other known steps := by
  induction steps generalizing known with
  | nil => rfl
  | cons step more ih =>
    have now : step.writes one known = step.writes other known := by
      cases step with
      | new => rfl
      | use handle what =>
        by_cases lt : handle < known
        · have bound := le_madeFrom known (.use handle what :: more)
          rw [Step.writes, Step.writes, same handle (by omega)]
        · simp [Step.writes, lt]
    rw [writtenFrom, writtenFrom, now, ih same]

theorem Copied.append {history : List Step} {a b : Nat} (copied : Copied history a b)
    (later : List Step) : Copied (history ++ later) a b := by
  cases copied with
  | @here before after _ what split known copies =>
    exact .here (by rw [split, List.append_assoc, List.cons_append]) known copies

theorem Connected.append {history : List Step} {a b : Nat} (connected : Connected history a b)
    (later : List Step) : Connected (history ++ later) a b :=
  Relation.EqvGen.mono (fun _ _ (copied : Copied _ _ _) => copied.append later) a b connected

/-- A history that went on by one step has the copies it had, and at most one more. -/
theorem Copied.of_concat {history : List Step} {step : Step} {a b : Nat}
    (copied : Copied (history ++ [step]) a b) :
    Copied history a b ∨
      (b = made history ∧ a < made history ∧ ∃ what, step = .use a what ∧ what.copies = true) := by
  cases copied with
  | @here before after _ what split known copies =>
    cases after using List.reverseRecOn with
    | nil =>
      obtain ⟨rfl, same⟩ := List.append_inj' split rfl
      obtain rfl := List.singleton_inj.1 same
      exact .inr ⟨rfl, known, what, rfl, copies⟩
    | append_singleton after last =>
      rw [← List.cons_append, ← List.append_assoc] at split
      obtain ⟨rfl, -⟩ := List.append_inj' split rfl
      exact .inl (.here rfl known copies)

/-! ## Shelves -/

theorem append_nil (s : Shelf) (buffer : Nat) : s.append buffer [] = s := by
  have nothing : (· ++ ([] : List UInt8)) = id := by
    funext bytes
    exact List.append_nil bytes
  rw [append, nothing, List.modify_id]

theorem Use.added_eq {what : Use} (copies : what.copies = false) : what.added = what.writes := by
  cases what with
  | clone => cases copies
  | writer => cases copies
  | greet who => exact who.said_eq
  | writeVectored parts =>
    have filter : parts.filter (· ≠ []) = parts.filter (!·.isEmpty) := by
      congr 1
      funext part
      cases part <;> rfl
    rw [added, writes, filter, List.headD_eq_head?_getD, List.head?_filter]
  | write data => rfl
  | writeAll data => rfl
  | flush => rfl
  | contents => rfl
  | lines => rfl

/-- **What a use does to a shelf**: it makes a handle of the same buffer, or adds to the buffer what
it writes. -/
theorem step_use {s : Shelf} {handle buffer : Nat} (found : s.find? handle = some buffer)
    (what : Use) :
    (s.step (.use handle what)).1 =
      if what.copies then s.addHandle buffer else s.append buffer what.writes := by
  simp only [step, found]
  split
  · next copies =>
    cases what with
    | clone => rfl
    | writer => rfl
    | _ => cases copies
  · next copies =>
    rw [← Use.added_eq (Bool.not_eq_true _ ▸ copies)]
    cases what with
    | clone => exact absurd rfl copies
    | writer => exact absurd rfl copies
    | contents => exact (append_nil s buffer).symm
    | lines => exact (append_nil s buffer).symm
    | _ => rfl

theorem step_unknown {s : Shelf} {handle : Nat} (unknown : s.find? handle = none) (what : Use) :
    s.step (.use handle what) = (s, .noSuchHandle) := by
  simp [step, unknown]

/-- The handles of a shelf with one more. -/
theorem find?_concat {s after : Shelf} {added : Nat} (grown : after.handles = s.handles ++ [added])
    (handle buffer : Nat) :
    after.find? handle = some buffer ↔
      s.find? handle = some buffer ∨ (handle = s.handles.length ∧ added = buffer) := by
  rw [find?, find?, grown]
  rcases Nat.lt_trichotomy handle s.handles.length with lt | rfl | gt
  · have ne : handle ≠ s.handles.length := Nat.ne_of_lt lt
    rw [List.getElem?_append_left lt]
    simp [ne]
  · simp
  · have ne : handle ≠ s.handles.length := Nat.ne_of_gt gt
    rw [List.getElem?_append_right (Nat.le_of_lt gt), List.getElem?_eq_none (Nat.le_of_lt gt)]
    simp only [List.getElem?_singleton, ne, false_and, or_false, reduceCtorEq]
    split <;> simp
    omega

/-- **A shelf reflects its history**: it has the handles that were made, those of one buffer are the
connected ones, and a buffer holds what was written through them. -/
structure Reflects (s : Shelf) (history : List Step) : Prop where
  count : s.handles.length = made history
  inside : ∀ {handle buffer}, s.find? handle = some buffer → buffer < s.buffers.length
  copied : ∀ {a b}, Copied history a b → ∃ buffer, s.find? a = some buffer ∧ s.find? b = some buffer
  connected : ∀ {a b buffer}, s.find? a = some buffer → s.find? b = some buffer →
    Connected history a b
  bytes : ∀ {buffer}, buffer < s.buffers.length →
    s.bytes buffer = written history fun handle => s.find? handle = some buffer

theorem writtenFrom_none (known : Nat) (steps : List Step) :
    writtenFrom (fun _ => false) known steps = [] := by
  induction steps generalizing known with
  | nil => rfl
  | cons step more ih =>
    have now : step.writes (fun _ => false) known = [] := by
      cases step <;> simp [Step.writes]
    rw [writtenFrom, now, ih, List.append_nil]

/-- What a history that went on by a step has written: what it had, and what the step writes. The
handles may be told by any test that agrees on those there were. -/
theorem written_concat {history : List Step} {step : Step} {one other : Nat → Bool}
    (same : ∀ handle < made history, one handle = other handle) :
    written (history ++ [step]) other
      = written history one ++ step.writes other (made history) := by
  rw [written, writtenFrom_concat, ← writtenFrom_congr same]
  rfl

namespace Reflects

variable {s : Shelf} {history : List Step}

theorem find?_isSome (reflects : s.Reflects history) (handle : Nat) :
    (s.find? handle).isSome ↔ handle < made history := by
  simp [find?, ← reflects.count]

theorem lt_made (reflects : s.Reflects history) {handle buffer : Nat}
    (found : s.find? handle = some buffer) : handle < made history :=
  (reflects.find?_isSome handle).1 (by rw [found]; rfl)

theorem initial : ({} : Shelf).Reflects [] where
  count := rfl
  inside := by simp [find?]
  copied := by
    intro a b copied
    cases copied with
    | here split known copies => simp at split
  connected := by simp [find?]
  bytes := by simp

/-- A step through a handle that is not known changes nothing. -/
theorem unknown (reflects : s.Reflects history) {handle : Nat} (what : Use)
    (unknown : s.find? handle = none) : s.Reflects (history ++ [.use handle what]) := by
  have ge : ¬ handle < made history := by
    rw [← reflects.find?_isSome, unknown]
    simp
  have writes (through : Nat → Bool) :
      (Step.use handle what).writes through (made history) = [] := by
    simp [Step.writes, ge]
  refine ⟨?_, reflects.inside, ?_, ?_, ?_⟩
  · rw [made_concat, Step.made, if_neg (fun both => ge both.1), reflects.count]
  · intro a b copied
    rcases copied.of_concat with old | ⟨-, lt, what', same, -⟩
    · exact reflects.copied old
    · cases same
      exact absurd lt ge
  · exact fun foundA foundB => (reflects.connected foundA foundB).append _
  · intro buffer lt
    rw [reflects.bytes lt, written_concat (fun _ _ => rfl), writes, List.append_nil]

/-- A step that writes adds to one buffer, and to what was written through its handles. -/
theorem write (reflects : s.Reflects history) {handle target : Nat} {what : Use}
    (found : s.find? handle = some target) (copies : what.copies = false) :
    (s.append target what.writes).Reflects (history ++ [.use handle what]) := by
  have finds (other : Nat) : (s.append target what.writes).find? other = s.find? other := rfl
  have size : (s.append target what.writes).buffers.length = s.buffers.length := by
    simp [Shelf.append]
  refine ⟨?_, ?_, ?_, ?_, ?_⟩
  · rw [made_concat, Step.made, if_neg (by simp [copies]), ← reflects.count]
    rfl
  · intro other buffer foundOther
    rw [size]
    exact reflects.inside foundOther
  · intro a b copied
    rcases copied.of_concat with old | ⟨-, -, what', same, copies'⟩
    · exact reflects.copied old
    · cases same
      rw [copies] at copies'
      cases copies'
  · exact fun foundA foundB => (reflects.connected foundA foundB).append _
  · intro buffer lt
    rw [size] at lt
    simp only [finds]
    rw [written_concat (fun _ _ => rfl), ← reflects.bytes lt, Step.writes]
    by_cases eq : target = buffer
    · subst eq
      rw [bytes_append_self s what.writes lt, if_pos ⟨reflects.lt_made found, by simp [found]⟩]
    · rw [bytes_append_of_ne s what.writes eq, if_neg (by simp [found, eq]), List.append_nil]

/-- A handle that was there finds the same buffer in a shelf that has one handle more. -/
theorem finds_same (reflects : s.Reflects history) {after : Shelf} {added : Nat}
    (grown : after.handles = s.handles ++ [added]) (buffer : Nat) :
    ∀ handle < made history,
      decide (s.find? handle = some buffer) = decide (after.find? handle = some buffer) := by
  intro handle lt
  have ne : handle ≠ s.handles.length := by
    rw [reflects.count]
    exact Nat.ne_of_lt lt
  rw [decide_eq_decide, find?_concat grown]
  simp [ne]

/-- A step that makes a handle from a handle connects the two. -/
theorem copy (reflects : s.Reflects history) {handle target : Nat} {what : Use}
    (found : s.find? handle = some target) (copies : what.copies = true) :
    (s.addHandle target).Reflects (history ++ [.use handle what]) := by
  have grown : (s.addHandle target).handles = s.handles ++ [target] := rfl
  have known := reflects.lt_made found
  have link : Connected (history ++ [.use handle what]) handle s.handles.length := by
    rw [reflects.count]
    exact .rel _ _ (.here rfl known copies)
  refine ⟨?_, ?_, ?_, ?_, ?_⟩
  · rw [made_concat, Step.made, if_pos ⟨known, copies⟩, ← reflects.count]
    simp [addHandle]
  · intro other buffer foundOther
    rcases (find?_concat grown other buffer).1 foundOther with old | ⟨-, rfl⟩
    · exact reflects.inside old
    · exact reflects.inside found
  · intro a b copied
    rcases copied.of_concat with old | ⟨rfl, -, what', same, -⟩
    · obtain ⟨buffer, foundA, foundB⟩ := reflects.copied old
      exact ⟨buffer, (find?_concat grown _ _).2 (.inl foundA),
        (find?_concat grown _ _).2 (.inl foundB)⟩
    · cases same
      exact ⟨target, (find?_concat grown _ _).2 (.inl found),
        (find?_concat grown _ _).2 (.inr ⟨reflects.count.symm, rfl⟩)⟩
  · intro a b buffer foundA foundB
    rcases (find?_concat grown a _).1 foundA with oldA | ⟨rfl, rfl⟩ <;>
      rcases (find?_concat grown b _).1 foundB with oldB | ⟨rfl, sameB⟩
    · exact (reflects.connected oldA oldB).append _
    · subst sameB
      exact .trans _ _ _ ((reflects.connected oldA found).append _) link
    · exact .trans _ _ _ (.symm _ _ link) ((reflects.connected found oldB).append _)
    · exact .refl _
  · intro buffer lt
    have silent : what.writes = [] := by
      cases what with
      | clone => rfl
      | writer => rfl
      | _ => cases copies
    rw [written_concat (reflects.finds_same grown buffer), Step.writes, silent, ite_self,
      List.append_nil, ← reflects.bytes lt]
    rfl

/-- A step that makes a handle from nothing gives it a buffer of its own, with nothing in it. -/
theorem fresh (reflects : s.Reflects history) : s.addBuffer.Reflects (history ++ [.new]) := by
  have grown : s.addBuffer.handles = s.handles ++ [s.buffers.length] := rfl
  have size : s.addBuffer.buffers.length = s.buffers.length + 1 := by simp [addBuffer]
  refine ⟨?_, ?_, ?_, ?_, ?_⟩
  · rw [made_concat, Step.made, ← reflects.count]
    simp [addBuffer]
  · intro other buffer foundOther
    rw [size]
    rcases (find?_concat grown other buffer).1 foundOther with old | ⟨-, rfl⟩
    · exact Nat.lt_succ_of_lt (reflects.inside old)
    · exact Nat.lt_succ_self _
  · intro a b copied
    rcases copied.of_concat with old | ⟨-, -, what', same, -⟩
    · obtain ⟨buffer, foundA, foundB⟩ := reflects.copied old
      exact ⟨buffer, (find?_concat grown _ _).2 (.inl foundA),
        (find?_concat grown _ _).2 (.inl foundB)⟩
    · cases same
  · intro a b buffer foundA foundB
    rcases (find?_concat grown a _).1 foundA with oldA | ⟨rfl, rfl⟩ <;>
      rcases (find?_concat grown b _).1 foundB with oldB | ⟨rfl, sameB⟩
    · exact (reflects.connected oldA oldB).append _
    · exact absurd (reflects.inside oldA) (by omega)
    · exact absurd (reflects.inside oldB) (by omega)
    · exact .refl _
  · intro buffer lt
    rw [written_concat (reflects.finds_same grown buffer), Step.writes, List.append_nil]
    rw [size] at lt
    rcases Nat.lt_succ_iff_lt_or_eq.1 lt with old | rfl
    · rw [← reflects.bytes old, Shelf.bytes, Shelf.bytes, List.getD_eq_getElem?_getD,
        List.getD_eq_getElem?_getD, addBuffer, List.getElem?_append_left old]
    · have none (handle : Nat) : decide (s.find? handle = some s.buffers.length) = false := by
        rw [decide_eq_false_iff_not]
        intro found
        exact absurd (reflects.inside found) (Nat.lt_irrefl _)
      simp only [none, written, writtenFrom_none]
      simp [Shelf.bytes, addBuffer, List.getD_eq_getElem?_getD]

/-- **One step** keeps a shelf a reflection of its history. -/
theorem step (reflects : s.Reflects history) (step : Step) :
    (s.step step).1.Reflects (history ++ [step]) := by
  cases step with
  | new => exact reflects.fresh
  | use handle what =>
    cases found : s.find? handle with
    | none =>
      rw [step_unknown found]
      exact reflects.unknown what found
    | some buffer =>
      rw [step_use found]
      split
      · next copies => exact reflects.copy found copies
      · next copies => exact reflects.write found (by simpa using copies)

/-- Two handles are connected exactly if they reach one buffer. -/
theorem connected_iff (reflects : s.Reflects history) (a b : Nat) :
    Connected history a b ↔
      a = b ∨ ∃ buffer, s.find? a = some buffer ∧ s.find? b = some buffer := by
  constructor
  · intro connected
    induction connected with
    | rel a b copied => exact .inr (reflects.copied copied)
    | refl a => exact .inl rfl
    | symm a b _ ih =>
      rcases ih with rfl | ⟨buffer, foundA, foundB⟩
      · exact .inl rfl
      · exact .inr ⟨buffer, foundB, foundA⟩
    | trans a b c _ _ first second =>
      rcases first with rfl | ⟨buffer, foundA, foundB⟩
      · exact second
      · rcases second with rfl | ⟨other, foundB', foundC⟩
        · exact .inr ⟨buffer, foundA, foundB⟩
        · obtain rfl := Option.some.inj (foundB.symm.trans foundB')
          exact .inr ⟨buffer, foundA, foundC⟩
  · rintro (rfl | ⟨buffer, foundA, foundB⟩)
    · exact .refl a
    · exact reflects.connected foundA foundB

end Reflects

/-! ## Whole runs -/

theorem run_append (s : Shelf) (first second : List Step) :
    s.run (first ++ second) =
      (((s.run first).1.run second).1, (s.run first).2 ++ ((s.run first).1.run second).2) := by
  induction first generalizing s with
  | nil => rfl
  | cons step more ih => simp [run, ih]

theorem length_answers (s : Shelf) (steps : List Step) : (s.run steps).2.length = steps.length := by
  induction steps generalizing s with
  | nil => rfl
  | cons step more ih => simp [run, ih]

/-- **Every run** leaves a shelf that reflects its history. -/
theorem reflects_run (history : List Step) : (run {} history).1.Reflects history := by
  induction history using List.reverseRecOn with
  | nil => exact Reflects.initial
  | append_singleton history step ih =>
    rw [run_append]
    exact ih.step step

instance (history : List Step) : DecidableRel (Connected history) := fun a b =>
  let shelf := (run {} history).1
  decidable_of_iff (a = b ∨ (shelf.find? a).isSome ∧ shelf.find? a = shelf.find? b) (by
    rw [(reflects_run history).connected_iff]
    simp only [shelf]
    cases foundA : (run {} history).1.find? a with
    | none => simp
    | some buffer => simp [eq_comm])

/-- What was written in a history through the handles that are connected to one. -/
def heldBy (history : List Step) (handle : Nat) : List UInt8 :=
  written history fun other => Connected history other handle

/-- What a handle of a shelf shows: its contents and its lines. -/
def shows (s : Shelf) (handle : Nat) : Answer × Answer :=
  ((s.step (.use handle .contents)).2, (s.step (.use handle .lines)).2)

theorem shows_of_find? {s : Shelf} {handle buffer : Nat} (found : s.find? handle = some buffer) :
    s.shows handle = (.contents (s.contents buffer), .lines (s.lines buffer)) := by
  simp [shows, step, found, use]

theorem Reflects.bytes_eq_heldBy {s : Shelf} {history : List Step} (reflects : s.Reflects history)
    {handle buffer : Nat} (found : s.find? handle = some buffer) :
    s.bytes buffer = heldBy history handle := by
  rw [reflects.bytes (reflects.inside found)]
  refine writtenFrom_congr fun other _ => decide_eq_decide.2 ?_
  rw [reflects.connected_iff]
  constructor
  · exact fun foundOther => .inr ⟨buffer, foundOther, found⟩
  · rintro (rfl | ⟨shared, foundOther, found'⟩)
    · exact found
    · rw [foundOther, ← found', found]

/-! ## What handles show -/

/-- A handle keeps its buffer. -/
theorem find?_step {s : Shelf} {handle buffer : Nat} (found : s.find? handle = some buffer)
    (step : Step) : (s.step step).1.find? handle = some buffer := by
  cases step with
  | new => exact (find?_concat rfl handle buffer).2 (.inl found)
  | use other what =>
    cases target : s.find? other with
    | none =>
      rw [step_unknown target]
      exact found
    | some shared =>
      rw [step_use target]
      split
      · exact (find?_concat rfl handle buffer).2 (.inl found)
      · exact found

theorem find?_run {s : Shelf} {handle buffer : Nat} (found : s.find? handle = some buffer)
    (steps : List Step) : (s.run steps).1.find? handle = some buffer := by
  induction steps generalizing s with
  | nil => exact found
  | cons step more ih => exact ih (find?_step found step)

/-- Later steps connect no two handles that were there and not connected. -/
theorem connected_append_iff {history : List Step} {a b : Nat} (madeA : a < made history)
    (madeB : b < made history) (later : List Step) :
    Connected (history ++ later) a b ↔ Connected history a b := by
  refine ⟨fun connected => ?_, fun connected => connected.append later⟩
  have reflects := reflects_run history
  have after := reflects_run (history ++ later)
  obtain ⟨first, foundA⟩ := Option.isSome_iff_exists.1 ((reflects.find?_isSome a).2 madeA)
  obtain ⟨second, foundB⟩ := Option.isSome_iff_exists.1 ((reflects.find?_isSome b).2 madeB)
  rw [run_append] at after
  rcases (after.connected_iff a b).1 connected with rfl | ⟨buffer, laterA, laterB⟩
  · exact .refl a
  · have sameA := (find?_run foundA later).symm.trans laterA
    have sameB := (find?_run foundB later).symm.trans laterB
    rw [← sameB] at sameA
    exact reflects.connected foundA (foundB.trans sameA.symm)

/-- A step adds to what a handle holds what it writes through a handle connected to it. -/
theorem heldBy_concat {history : List Step} {handle : Nat} (known : handle < made history)
    (step : Step) :
    heldBy (history ++ [step]) handle = heldBy history handle ++
      step.writes (fun other => Connected history other handle) (made history) := by
  have same : ∀ other < made history,
      decide (Connected history other handle)
        = decide (Connected (history ++ [step]) other handle) := by
    intro other madeOther
    exact decide_eq_decide.2 (connected_append_iff madeOther known [step]).symm
  rw [heldBy, written_concat same]
  congr 1
  cases step with
  | new => rfl
  | use other what =>
    by_cases madeOther : other < made history
    · rw [Step.writes, Step.writes, same other madeOther]
    · simp [Step.writes, madeOther]

/-- A handle that was made shows what was written through the handles connected to it. -/
theorem shows_run {history : List Step} {handle : Nat} (known : handle < made history) :
    (run {} history).1.shows handle =
      (.contents (Text.Utf8.decodeLossy (heldBy history handle)),
        .lines (Text.lines (Text.Utf8.decodeLossy (heldBy history handle)))) := by
  have reflects := reflects_run history
  obtain ⟨buffer, found⟩ := Option.isSome_iff_exists.1 ((reflects.find?_isSome handle).2 known)
  rw [shows_of_find? found, lines, contents, reflects.bytes_eq_heldBy found]

/-- **What handles show, at every point of every history.** A handle that was made shows what was
written so far through the handles connected to it, and its lines; a handle that was not made is
not known, and a step that names it changes nothing. Connected handles show the same. A step that
writes nothing through a handle connected to this one leaves what this one shows, and no later step
connects handles that were not connected. These are the answers that a run gives. -/
theorem shown_of_history (history : List Step) :
    let shelf := (run {} history).1
    (∀ handle < made history,
      shelf.shows handle =
        (.contents (Text.Utf8.decodeLossy (heldBy history handle)),
          .lines (Text.lines (Text.Utf8.decodeLossy (heldBy history handle))))) ∧
      (∀ handle what, made history ≤ handle →
        shelf.step (.use handle what) = (shelf, .noSuchHandle)) ∧
      (∀ a b, Connected history a b → shelf.shows a = shelf.shows b) ∧
      (∀ handle < made history, ∀ step,
        (∀ other what, step = .use other what → other < made history →
          Connected history other handle → what.writes = []) →
        (run {} (history ++ [step])).1.shows handle = shelf.shows handle) ∧
      (∀ a < made history, ∀ b < made history, ∀ later,
        Connected (history ++ later) a b ↔ Connected history a b) ∧
      ∀ step later,
        (run {} (history ++ step :: later)).2[history.length]? = some (shelf.step step).2 := by
  intro shelf
  have reflects : shelf.Reflects history := reflects_run history
  refine ⟨fun handle known => shows_run known, ?_, ?_, ?_, ?_, ?_⟩
  · intro handle what unmade
    refine step_unknown ?_ what
    rw [← Option.not_isSome_iff_eq_none, reflects.find?_isSome]
    exact Nat.not_lt.2 unmade
  · intro a b connected
    rcases (reflects.connected_iff a b).1 connected with rfl | ⟨buffer, foundA, foundB⟩
    · rfl
    · rw [shows_of_find? foundA, shows_of_find? foundB]
  · intro handle known step silent
    have nothing :
        step.writes (fun other => Connected history other handle) (made history) = [] := by
      cases step with
      | new => rfl
      | use other what =>
        rw [Step.writes]
        split
        · next both => exact silent other what rfl both.1 (of_decide_eq_true both.2)
        · rfl
    have stillKnown : handle < made (history ++ [step]) := by
      rw [made_concat]
      exact Nat.lt_of_lt_of_le known (step.le_made _)
    rw [shows_run stillKnown, shows_run known, heldBy_concat known, nothing, List.append_nil]
  · exact fun a madeA b madeB later => connected_append_iff madeA madeB later
  · intro step later
    have before : history.length = (run {} history).2.length := (length_answers {} history).symm
    rw [run_append, before, List.getElem?_append_right (Nat.le_refl _), Nat.sub_self]
    rfl

end Duet.Shelf
