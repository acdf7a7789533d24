import Duet.Proofs.Worker.Shift
import Mathlib.Algebra.BigOperators.Group.List.Basic
import Mathlib.Algebra.GroupWithZero.Nat

/-!
# Every worker is waited for once

The argument goes post by post. A handle is in its slot, in a call, or gone, and for each of these
it is known what has waited for the worker and whether it has ended (`Hold.Stands`): a join empties
the handle before it lets go of it, so that letting go waits only if no join did. No move about one
slot touches another, so what holds of a post as it is created holds for good.

**When a join or a drop has answered, the worker has ended and was waited for by that call and by
nothing else** (`Post.Accounted`), **and the answers are those of the crew taken one step after the
other** (`Shift.Sound`). No wait is for ever: **a shift can always go on until every handle is gone**
(`Shift.Sound.finish`).
-/

namespace Duet

/-! ## Reports -/

namespace RunFailure

/-- The report of a panic tells which panic it was. -/
theorem ofPanic_injective {who : Speaker} {a b : Panic} (same : ofPanic who a = ofPanic who b) :
    a = b := by
  cases a with
  | other =>
    cases b with
    | other => rfl
    | text message =>
      have texts := congrArg String.toList (RunFailure.join.inj same).2
      simp at texts
  | text first =>
    cases b with
    | other =>
      have texts := congrArg String.toList (RunFailure.join.inj same).2
      simp at texts
    | text second =>
      have texts := congrArg String.toList (RunFailure.join.inj same).2
      have inner : first.toList = second.toList := by simpa using texts
      rw [String.toList_inj.1 inner]

/-- No panic is reported as an injected fault. -/
theorem ofPanic_ne_injectedJoin (who : Speaker) (panic : Panic) :
    ofPanic who panic ≠ injectedJoin who := by
  intro same
  cases panic with
  | text message =>
    have texts := congrArg String.toList (RunFailure.join.inj same).2
    simp at texts
  | other =>
    have texts := congrArg String.toList (RunFailure.join.inj same).2
    simp at texts

end RunFailure

namespace Handle

/-- A join reports the injected fault exactly if the handle is marked. -/
theorem join_injected_iff {h : Handle} (ending : Option Panic) :
    h.join ending = .error (.injectedJoin h.who) ↔ h.failsJoin = true := by
  constructor
  · intro reported
    cases marked : h.failsJoin with
    | true => rfl
    | false =>
      simp only [join, marked] at reported
      split at reported
      · next full => cases full
      · split at reported
        · next panic _ =>
          exact absurd (Except.error.inj reported) (RunFailure.ofPanic_ne_injectedJoin _ _)
        · cases reported
  · intro marked
    exact join_of_failsJoin marked ending

/-- Without a mark, the join of a worker reports its panic. -/
theorem join_of_unmarked {h : Handle} (unmarked : h.failsJoin = false) (full : h.inner.isSome)
    (ending : Option Panic) :
    h.join ending = match ending with
      | some panic => .error (.ofPanic h.who panic)
      | none => .ok () := by
  obtain ⟨worker, inner⟩ := Option.isSome_iff_exists.1 full
  cases ending <;> simp [join, unmarked, inner]

/-- A handle with a worker in it is shown as one that was not joined. -/
theorem debug_of_full {h : Handle} (full : h.inner.isSome) :
    h.debug = "ThreadHandle \x7b num: " ++ h.who.debug ++ ", joined: false \x7d" := by
  have text : ", joined: " ++ ("false" ++ " \x7d") = ", joined: false \x7d" := by
    apply String.toList_inj.1
    simp
  have shown : h.joinedText = "false" := by
    obtain ⟨worker, inner⟩ := Option.isSome_iff_exists.1 full
    simp [joinedText, inner]
  unfold debug
  rw [shown, String.append_assoc, String.append_assoc, text]

end Handle

/-! ## Workers -/

/-- Every handle that a launcher hands out has a worker in it. -/
theorem Launcher.inner_of_spawn {launcher : Launcher} {who : Speaker}
    {refusal : Option SystemError} {handle : Handle}
    (ok : launcher.spawn who refusal = .ok handle) : handle.inner.isSome := by
  cases launcher with
  | system =>
    cases refusal with
    | some e => cases ok
    | none =>
      cases ok
      rfl
  | faulty fault =>
    cases fault with
    | spawn => cases ok
    | join =>
      cases refusal with
      | some e => cases ok
      | none =>
        cases ok
        rfl
  | refusing failure => cases ok
  | ready own worker failsJoin => cases ok; rfl

/-- **How far a worker is and what it has said**: whole lines only, and all of them at its end. -/
inductive Progress.Runs (m : Member) : Progress → List UInt8 → Prop where
  | greeting {g : Greeter} (greets : m.greets = true) (whole : g.Whole m.who) :
    Runs m (.running g) ((g.sent m.who).flatMap Speaker.line)
  | silent (quiet : m.greets = false) : Runs m (.running .finished) []
  | ended : Runs m (.ended m.ending) (if m.greets then m.who.line else [])

/-- **Where a handle is, what has waited for the worker, and how far that is.** -/
inductive Hold.Stands (m : Member) : Hold → List Way → Progress → Prop where
  | held {progress : Progress} : Stands m (.held m.handle) [] progress
  | joining {call : Nat} {progress : Progress} : Stands m (.joining call m.handle) [] progress
  | dropping {call : Nat} {progress : Progress} :
    Stands m (.leaving call m.handle none []) [] progress
  | joined {call : Nat} :
    Stands m (.leaving call m.handle.emptied (some (m.handle.join m.ending))
      [m.handle.terminated]) [.join] (.ended m.ending)
  | goneJoined : Stands m (.gone (some (m.handle.join m.ending))) [.join] (.ended m.ending)
  | goneDropped : Stands m (.gone none) [.drop] (.ended m.ending)

theorem Hold.Stands.goOn {m : Member} {hold : Hold} {waits : List Way} {g : Greeter}
    (stands : hold.Stands m waits (.running g)) (progress : Progress) :
    hold.Stands m waits progress := by
  cases stands with
  | held => exact .held
  | joining => exact .joining
  | dropping => exact .dropping

/-! ## One post -/

/-- The step that is answered by a call. -/
def Way.step (slot : Nat) : Way → Crew.Step
  | .join => .join slot
  | .drop => .drop slot

namespace Member

/-- What a call on the handle of a member answers. -/
def told (m : Member) : Way → Told
  | .join => ⟨.joined (m.handle.join m.ending) m.deed, m.handle.joinEvents⟩
  | .drop => ⟨.dropped m.deed, m.handle.dropEvents⟩

/-- What is left in the end of a handle that a call had. -/
def left (m : Member) : Way → Hold
  | .join => .gone (some (m.handle.join m.ending))
  | .drop => .gone none

end Member

namespace Post

/-- The call that has the handle. -/
def call? (p : Post) : Option (Nat × Way) :=
  match p.hold with
  | .joining call _ => some (call, .join)
  | .leaving call _ (some _) _ => some (call, .join)
  | .leaving call _ none _ => some (call, .drop)
  | _ => none

/-- A post as it should be. -/
structure Sound (p : Post) : Prop where
  created : p.member.handle.inner.isSome
  runs : p.progress.Runs p.member p.output
  stands : p.hold.Stands p.member p.waits p.progress

theorem sound_begin {m : Member} (created : m.handle.inner.isSome) : (begin m).Sound where
  created := created
  runs := by
    cases greets : m.greets with
    | true =>
      simp only [begin, greets, if_true]
      exact .greeting greets .opening
    | false =>
      simp only [begin, greets]
      exact .silent greets
  stands := .held

/-- At its end, a worker has done what its member was asked to do. -/
theorem Sound.deed_eq {p : Post} (sound : p.Sound) {ending : Option Panic}
    (ended : p.progress = .ended ending) : p.deed = p.member.deed := by
  obtain ⟨m, hold, progress, output, waits⟩ := p
  have runs : progress.Runs m output := sound.runs
  subst ended
  cases runs with
  | ended =>
    obtain ⟨worker, inner⟩ := Option.isSome_iff_exists.1 sound.created
    have inner : m.handle.inner = some worker := inner
    simp only [deed, Member.deed, Member.greets, inner, Option.any_some, Speaker.said_eq]
    cases worker.runsEntry <;> simp

/-- **One step of a worker**: the post stays as it should be, with its handle where it was. -/
theorem Sound.work {p after : Post} (sound : p.Sound) (worked : p.work = some after) :
    after.Sound ∧ after.member = p.member ∧ after.hold = p.hold := by
  obtain ⟨m, hold, progress, output, waits⟩ := p
  have runs : progress.Runs m output := sound.runs
  have stands : hold.Stands m waits progress := sound.stands
  cases runs with
  | ended => cases worked
  | silent quiet =>
    cases worked
    refine ⟨⟨sound.created, ?_, stands.goOn _⟩, rfl, rfl⟩
    simpa [quiet] using Progress.Runs.ended (m := m)
  | @greeting g greets whole =>
    cases due : g.next with
    | none =>
      obtain rfl := whole.eq_finished due
      cases worked
      refine ⟨⟨sound.created, ?_, stands.goOn _⟩, rfl, rfl⟩
      simpa [greets, Greeter.sent] using Progress.Runs.ended (m := m)
    | some call =>
      obtain ⟨stays, -, new, more, offered⟩ := whole.resume due
      simp only [Post.work, due] at worked
      cases worked
      refine ⟨⟨sound.created, ?_, stands.goOn _⟩, rfl, rfl⟩
      have said := Progress.Runs.greeting greets stays
      rwa [more, List.flatMap_append, ← offered] at said

/-- A call that waits goes on when the worker has ended, and not before. -/
theorem Sound.await {p after : Post} {way : Way} {ending : Option Panic} (sound : p.Sound)
    (waited : p.await way p.member.handle = some (after, ending)) :
    p.progress = .ended p.member.ending ∧ ending = p.member.ending ∧
      after = { p with waits := p.waits ++ [way] } := by
  obtain ⟨m, hold, progress, output, waits⟩ := p
  have runs : progress.Runs m output := sound.runs
  obtain ⟨worker, inner⟩ := Option.isSome_iff_exists.1 sound.created
  have inner : m.handle.inner = some worker := inner
  simp only [Post.await, inner] at waited
  cases runs with
  | greeting greets whole => cases waited
  | silent quiet => cases waited
  | ended =>
    cases waited
    exact ⟨rfl, rfl, rfl⟩

theorem await_emptied (p : Post) (way : Way) (handle : Handle) :
    p.await way handle.emptied = some (p, none) := rfl

/-- **One step of a call**: it goes on, or it gives its answer and the handle is gone. -/
theorem Sound.proceed {p after : Post} {told : Option (Nat × Told)} (sound : p.Sound)
    (went : p.proceed = some (after, told)) :
    after.Sound ∧ after.member = p.member ∧ p.member? = none ∧ after.member? = none ∧
      ∃ call way, p.call? = some (call, way) ∧
        (told = none ∧ after.call? = some (call, way) ∨
          told = some (call, p.member.told way) ∧ after.call? = none ∧
            after.hold = p.member.left way) := by
  obtain ⟨m, hold, progress, output, waits⟩ := p
  have stands : hold.Stands m waits progress := sound.stands
  cases stands with
  | held => cases went
  | goneJoined => cases went
  | goneDropped => cases went
  | @joining call =>
    obtain ⟨⟨q, ending⟩, waited, eq⟩ := Option.map_eq_some_iff.1 went
    obtain ⟨isEnded, rfl, rfl⟩ := sound.await waited
    obtain rfl : progress = .ended m.ending := isEnded
    cases eq
    exact ⟨⟨sound.created, sound.runs, .joined⟩, rfl, rfl, rfl, call, .join, rfl,
      .inl ⟨rfl, rfl⟩⟩
  | @dropping call =>
    obtain ⟨⟨q, ending⟩, waited, eq⟩ := Option.map_eq_some_iff.1 went
    obtain ⟨isEnded, rfl, rfl⟩ := sound.await waited
    obtain rfl : progress = .ended m.ending := isEnded
    cases eq
    have deed := sound.deed_eq rfl
    refine ⟨⟨sound.created, sound.runs, .goneDropped⟩, rfl, rfl, rfl, call, .drop, rfl,
      .inr ⟨?_, rfl, rfl⟩⟩
    simp only [Member.told, ← deed, List.nil_append]
    rfl
  | @joined call =>
    simp only [Post.proceed, await_emptied, Option.map_some] at went
    cases went
    have deed := sound.deed_eq rfl
    refine ⟨⟨sound.created, sound.runs, .goneJoined⟩, rfl, rfl, rfl, call, .join, rfl,
      .inr ⟨?_, rfl, rfl⟩⟩
    simp only [Member.told, ← deed]
    rfl

/-- **What is to be said of a post at any time.** A handle in its slot has its worker in it, and
nothing has waited for that. Nothing waits for a worker twice. If the handle is gone, its worker
has ended and was waited for by the call that had the handle. A join reports the injected fault
exactly if the handle is marked, else the worker's panic if there was one, else success. -/
structure Accounted (p : Post) : Prop where
  held : ∀ handle, p.hold = .held handle →
    handle.inner.isSome ∧
      handle.debug = "ThreadHandle \x7b num: " ++ handle.who.debug ++ ", joined: false \x7d" ∧
      handle = p.member.handle ∧ p.waits = []
  joining : ∀ call handle, p.hold = .joining call handle → handle.inner.isSome
  once : p.waits.length ≤ 1
  gone : ∀ report, p.hold = .gone report →
    p.progress = .ended p.member.ending ∧ p.waits = [if report.isSome then .join else .drop]
  reports : ∀ report, p.hold = .gone (some report) →
    (report = .error (.injectedJoin p.member.handle.who) ↔ p.member.handle.failsJoin = true) ∧
    (p.member.handle.failsJoin = false →
      (∀ panic, report = .error (.ofPanic p.member.handle.who panic) ↔
        p.progress = .ended (some panic)) ∧
      (report = .ok () ↔ p.progress = .ended none))

theorem Sound.accounted {p : Post} (sound : p.Sound) : p.Accounted := by
  obtain ⟨m, hold, progress, output, waits⟩ := p
  have created : m.handle.inner.isSome := sound.created
  have stands : hold.Stands m waits progress := sound.stands
  cases stands with
  | held =>
    refine ⟨?_, by simp, by simp, by simp, by simp⟩
    rintro handle same
    cases same
    exact ⟨created, Handle.debug_of_full created, rfl, rfl⟩
  | joining =>
    refine ⟨by simp, ?_, by simp, by simp, by simp⟩
    rintro call handle same
    cases same
    exact created
  | dropping => exact ⟨by simp, by simp, by simp, by simp, by simp⟩
  | joined => exact ⟨by simp, by simp, by simp, by simp, by simp⟩
  | goneDropped =>
    refine ⟨by simp, by simp, by simp, ?_, by simp⟩
    rintro report same
    cases same
    exact ⟨rfl, rfl⟩
  | goneJoined =>
    refine ⟨by simp, by simp, by simp, ?_, ?_⟩
    · rintro report same
      cases same
      exact ⟨rfl, rfl⟩
    · rintro report same
      cases same
      refine ⟨Handle.join_injected_iff _, fun unmarked => ?_⟩
      simp only [Handle.join_of_unmarked unmarked created]
      cases m.ending with
      | none => simp
      | some panic =>
        refine ⟨fun reported => ⟨fun same => ?_, fun same => ?_⟩, by simp⟩
        · rw [RunFailure.ofPanic_injective (Except.error.inj same)]
        · cases same
          rfl

/-- A member whose handle is in its slot is as it was created. -/
theorem Sound.eq_of_member? {p : Post} (sound : p.Sound) {m : Member}
    (isHeld : p.member? = some m) : m = p.member ∧ p.hold = .held m.handle := by
  obtain ⟨own, hold, progress, output, waits⟩ := p
  have stands : hold.Stands own waits progress := sound.stands
  cases stands with
  | held =>
    cases isHeld
    exact ⟨rfl, rfl⟩
  | joining => cases isHeld
  | dropping => cases isHeld
  | joined => cases isHeld
  | goneJoined => cases isHeld
  | goneDropped => cases isHeld

end Post

/-! ## The whole shift -/

private theorem getElem?_concat_of_some {α : Type} {as : List α} {i : Nat} {a : α} (b : α)
    (at_ : as[i]? = some a) : (as ++ [b])[i]? = some a := by
  obtain ⟨lt, _⟩ := List.getElem?_eq_some_iff.1 at_
  rw [List.getElem?_append_left lt]
  exact at_

private theorem getElem?_concat_cases {α : Type} {as : List α} {i : Nat} {a b : α}
    (at_ : (as ++ [b])[i]? = some a) : as[i]? = some a ∨ i = as.length ∧ a = b := by
  by_cases lt : i < as.length
  · rw [List.getElem?_append_left lt] at at_
    exact .inl at_
  · obtain ⟨lt', eq⟩ := List.getElem?_eq_some_iff.1 at_
    have isLast : i = as.length := by
      simp at lt'
      omega
    subst isLast
    exact .inr ⟨rfl, by simpa using eq.symm⟩

theorem Way.step_inj {a b : Nat} {way other : Way} (same : way.step a = other.step b) :
    way = other ∧ a = b := by
  cases way <;> cases other <;> cases same <;> exact ⟨rfl, rfl⟩

namespace Shift

/-- **A shift as it should be**: so is every post; the handles in their slots are those of the crew
after the same steps; a call under way will give the answer that its step has there, and an answer
that was given is that one; and once a join or a drop of a handle has answered, the handle is
gone. -/
structure Sound (s : Shift) : Prop where
  posts : ∀ (slot : Nat) (p : Post), s.posts[slot]? = some p → p.Sound
  crew : s.crew = ({} : Crew).after s.steps
  calls : ∀ (slot : Nat) (p : Post) (call : Nat) (way : Way), s.posts[slot]? = some p →
    p.call? = some (call, way) → s.steps[call]? = some (way.step slot) ∧
      (({} : Crew).tells s.steps)[call]? = some (p.member.told way)
  answers : ∀ (call : Nat) (a : Asked) (told : Told), s.asked[call]? = some a →
    a.told = some told → (({} : Crew).tells s.steps)[call]? = some told
  returns : ∀ (call : Nat) (a : Asked) (told : Told) (way : Way) (slot : Nat),
    s.asked[call]? = some a → a.told = some told → a.step = way.step slot →
      told.answer = .noSuchHandle ∨
        ∃ p : Post, s.posts[slot]? = some p ∧ p.hold = p.member.left way ∧
          told = p.member.told way

theorem sound_empty : ({} : Shift).Sound where
  posts := by simp
  crew := rfl
  calls := by simp
  answers := by simp
  returns := by simp

theorem find?_crew {s : Shift} {slot : Nat} {m : Member} (found : s.crew.find? slot = some m) :
    ∃ p : Post, s.posts[slot]? = some p ∧ p.member? = some m := by
  simp only [crew, Crew.find?, List.getElem?_map] at found
  cases at_ : s.posts[slot]? with
  | none => simp [at_] at found
  | some p => exact ⟨p, rfl, by simpa [at_] using found⟩

/-! ### Beginning something -/

/-- What is begun keeps a shift as it should be, if the posts follow the crew: those that have a
call had it before or have the new one, and what is gone stays so. -/
theorem Sound.ask {s : Shift} (sound : s.Sound) {step : Crew.Step} {posts : List Post}
    {told : Option Told}
    (areSound : ∀ (slot : Nat) (p : Post), posts[slot]? = some p → p.Sound)
    (crew : posts.map Post.member? = (s.crew.step step).crew.slots)
    (calls : ∀ (slot : Nat) (p : Post) (call : Nat) (way : Way), posts[slot]? = some p →
      p.call? = some (call, way) →
        (∃ q : Post, s.posts[slot]? = some q ∧ q.call? = some (call, way) ∧
          q.member = p.member) ∨
        call = s.asked.length ∧ step = way.step slot ∧ s.crew.told step = p.member.told way)
    (keeps : ∀ (slot : Nat) (p : Post) (way : Way), s.posts[slot]? = some p →
      p.hold = p.member.left way → posts[slot]? = some p)
    (answer : ∀ new : Told, told = some new → new = s.crew.told step ∧
      ∀ (way : Way) (slot : Nat), step = way.step slot → new.answer = .noSuchHandle) :
    Sound ⟨posts, s.asked ++ [⟨step, told⟩]⟩ := by
  have steps : (⟨posts, s.asked ++ [⟨step, told⟩]⟩ : Shift).steps = s.steps ++ [step] := by
    simp [Shift.steps]
  have size : s.steps.length = s.asked.length := by simp [Shift.steps]
  have tells : ({} : Crew).tells (s.steps ++ [step]) =
      ({} : Crew).tells s.steps ++ [s.crew.told step] := by
    rw [Crew.tells_concat, sound.crew]
  have newest : (({} : Crew).tells (s.steps ++ [step]))[s.asked.length]? =
      some (s.crew.told step) := by
    rw [tells, ← size, ← Crew.length_tells ({} : Crew) s.steps]
    simp
  refine ⟨areSound, ?_, ?_, ?_, ?_⟩
  · rw [steps, Crew.after_concat, ← sound.crew, Shift.crew, crew]
  · intro slot p call way at_ isCall
    rw [steps]
    rcases calls slot p call way at_ isCall with ⟨q, old, was, same⟩ | ⟨rfl, isStep, isTold⟩
    · obtain ⟨begun, due⟩ := sound.calls slot q call way old was
      rw [tells, ← same]
      exact ⟨getElem?_concat_of_some _ begun, getElem?_concat_of_some _ due⟩
    · rw [newest, isTold, ← size, isStep]
      exact ⟨by simp, rfl⟩
  · intro call a given at_ isGiven
    rw [steps]
    rcases getElem?_concat_cases at_ with old | ⟨rfl, rfl⟩
    · rw [tells]
      exact getElem?_concat_of_some _ (sound.answers call a given old isGiven)
    · rw [newest, ← (answer given isGiven).1]
  · intro call a given way slot at_ isGiven isStep
    rcases getElem?_concat_cases at_ with old | ⟨rfl, rfl⟩
    · rcases sound.returns call a given way slot old isGiven isStep with none | ⟨p, was, gone, eq⟩
      · exact .inl none
      · exact .inr ⟨p, keeps slot p way was gone, gone, eq⟩
    · exact .inl ((answer given isGiven).2 way slot isStep)

/-- A step that leaves the crew as it is, and is answered at once. -/
theorem Sound.answered {s : Shift} (sound : s.Sound) {step : Crew.Step} {told : Told}
    (same : (s.crew.step step).crew = s.crew) (isTold : told = s.crew.told step)
    (noHandle : ∀ (way : Way) (slot : Nat), step = way.step slot →
      told.answer = .noSuchHandle) : (s.ask step (some told)).Sound := by
  refine sound.ask sound.posts ?_ ?_ ?_ ?_
  · rw [same]
    rfl
  · intro slot p call way at_ isCall
    exact .inl ⟨p, at_, isCall, rfl⟩
  · intro slot p way at_ _
    exact at_
  · intro new isNew
    cases isNew
    exact ⟨isTold, noHandle⟩

theorem getElem?_set_post {posts : List Post} {slot : Nat} {p : Post}
    (at_ : posts[slot]? = some p) (q : Post) (other : Nat) :
    (posts.set slot q)[other]? = if other = slot then some q else posts[other]? := by
  have lt : slot < posts.length := (List.getElem?_eq_some_iff.1 at_).1
  by_cases same : other = slot
  · subst same
    simp [lt]
  · simp [same, Ne.symm same]

theorem posts_place {s : Shift} {slot : Nat} {p : Post} (at_ : s.posts[slot]? = some p)
    (hold : Hold) : (s.place slot hold).posts = s.posts.set slot { p with hold } := by
  refine List.ext_getElem? fun other => ?_
  rw [place, List.getElem?_modify, getElem?_set_post at_]
  by_cases same : other = slot
  · subst same
    simp [at_]
  · simp [same, Ne.symm same]

/-- A call takes the handle of a slot. -/
theorem Sound.taken {s : Shift} (sound : s.Sound) {slot : Nat} {m : Member} (way : Way)
    {hold : Hold} (found : s.crew.find? slot = some m)
    (stands : ∀ progress, hold.Stands m [] progress)
    (isCall : ∀ p : Post, ({ p with hold } : Post).call? = some (s.asked.length, way))
    (crew : (s.crew.step (way.step slot)).crew = s.crew.take slot)
    (told : s.crew.told (way.step slot) = m.told way) :
    ((s.place slot hold).ask (way.step slot) none).Sound := by
  obtain ⟨p, at_, isHeld⟩ := find?_crew found
  have before := sound.posts slot p at_
  obtain ⟨rfl, wasHeld⟩ := before.eq_of_member? isHeld
  obtain ⟨-, -, -, noWaits⟩ := before.accounted.held _ wasHeld
  refine sound.ask ?_ ?_ ?_ ?_ (by simp)
  · intro other q isQ
    rw [posts_place at_, getElem?_set_post at_] at isQ
    split at isQ
    · cases isQ
      refine ⟨before.created, before.runs, ?_⟩
      rw [noWaits]
      exact stands p.progress
    · exact sound.posts other q isQ
  · rw [crew]
    refine List.ext_getElem? fun other => ?_
    have lt : slot < s.posts.length := (List.getElem?_eq_some_iff.1 at_).1
    have noMember : ({ p with hold } : Post).member? = none := by
      have calls := isCall p
      cases hold <;> simp_all [Post.call?, Post.member?]
    rw [List.getElem?_map, posts_place at_, getElem?_set_post at_, Crew.take, Shift.crew]
    by_cases same : other = slot
    · subst same
      simp [lt, noMember]
    · simp [same, Ne.symm same]
  · intro other q call which isQ calling
    rw [posts_place at_, getElem?_set_post at_] at isQ
    split at isQ
    · next same =>
      cases isQ
      rw [isCall p] at calling
      cases calling
      subst same
      exact .inr ⟨rfl, rfl, told⟩
    · exact .inl ⟨q, isQ, calling, rfl⟩
  · intro other q which isQ gone
    rw [posts_place at_, getElem?_set_post at_]
    split
    · next same =>
      subst same
      rw [at_] at isQ
      cases isQ
      rw [wasHeld] at gone
      cases which <;> cases gone
    · exact isQ

/-- A join or a drop of a handle that is not there. -/
theorem Sound.missing {s : Shift} (sound : s.Sound) {slot : Nat} (way : Way)
    (found : s.crew.find? slot = none) :
    (s.ask (way.step slot) (some ⟨.noSuchHandle, []⟩)).Sound := by
  refine sound.answered ?_ ?_ (fun _ _ _ => rfl)
  · cases way <;> simp [Way.step, Crew.step, found]
  · cases way <;> simp [Way.step, Crew.told, Crew.step, found]

/-- **Whatever is begun** keeps a shift as it should be. -/
theorem Sound.begin {s : Shift} (sound : s.Sound) (step : Crew.Step) : (s.begin step).Sound := by
  cases step with
  | spawn launcher who entry refusal =>
    have noWay (way : Way) (slot : Nat) :
        Crew.Step.spawn launcher who entry refusal ≠ way.step slot := by
      cases way <;> simp [Way.step]
    cases launched : launcher.spawn who refusal with
    | error failure =>
      simp only [Shift.begin, launched]
      refine sound.answered ?_ ?_ fun way slot isStep => absurd isStep (noWay way slot)
      · simp [Crew.step, launched]
      · simp [Crew.told, Crew.step, launched]
    | ok handle =>
      simp only [Shift.begin, launched]
      refine sound.ask ?_ ?_ ?_ ?_ ?_
      · intro slot p at_
        rcases getElem?_concat_cases at_ with old | ⟨rfl, rfl⟩
        · exact sound.posts slot p old
        · exact Post.sound_begin (Launcher.inner_of_spawn launched)
      · simp [add, Crew.step, launched, Crew.add, Shift.crew, Post.member?, Post.begin]
      · intro slot p call way at_ isCall
        rcases getElem?_concat_cases at_ with old | ⟨rfl, rfl⟩
        · exact .inl ⟨p, old, isCall, rfl⟩
        · cases isCall
      · intro slot p way at_ _
        exact getElem?_concat_of_some _ at_
      · intro new isNew
        cases isNew
        refine ⟨?_, fun way slot isStep => absurd isStep (noWay way slot)⟩
        simp [Crew.told, Crew.step, launched, Shift.crew]
  | debug slot =>
    have noWay (way : Way) (other : Nat) : Crew.Step.debug slot ≠ way.step other := by
      cases way <;> simp [Way.step]
    cases found : s.crew.find? slot with
    | none =>
      simp only [Shift.begin, found]
      refine sound.answered ?_ ?_ fun way slot isStep => absurd isStep (noWay way slot)
      · simp [Crew.step, found]
      · simp [Crew.told, Crew.step, found]
    | some m =>
      simp only [Shift.begin, found]
      refine sound.answered ?_ ?_ fun way slot isStep => absurd isStep (noWay way slot)
      · simp [Crew.step, found]
      · simp [Crew.told, Crew.step, found]
  | join slot =>
    cases found : s.crew.find? slot with
    | none =>
      simp only [Shift.begin, found]
      exact sound.missing .join found
    | some m =>
      simp only [Shift.begin, found]
      refine sound.taken .join found (fun _ => .joining) (fun _ => rfl) ?_ ?_
      · simp [Way.step, Crew.step, found]
      · simp [Way.step, Crew.told, Crew.step, found, Member.told]
  | drop slot =>
    cases found : s.crew.find? slot with
    | none =>
      simp only [Shift.begin, found]
      exact sound.missing .drop found
    | some m =>
      simp only [Shift.begin, found]
      refine sound.taken .drop found (fun _ => .dropping) (fun _ => rfl) ?_ ?_
      · simp [Way.step, Crew.step, found]
      · simp [Way.step, Crew.told, Crew.step, found, Member.told]

/-! ### Going on -/

/-- A post that goes on, by its worker or by the call that has its handle. -/
theorem Sound.replace {s : Shift} (sound : s.Sound) {slot : Nat} {p q : Post}
    (at_ : s.posts[slot]? = some p) (isSound : q.Sound) (sameMember : q.member = p.member)
    (sameHeld : q.member? = p.member?)
    (sameCall : ∀ call way, q.call? = some (call, way) → p.call? = some (call, way))
    (keeps : ∀ way, p.hold = p.member.left way → q.hold = p.hold) :
    Sound { s with posts := s.posts.set slot q } := by
  refine ⟨?_, ?_, ?_, sound.answers, ?_⟩
  · intro other r isR
    rw [getElem?_set_post at_] at isR
    split at isR
    · cases isR
      exact isSound
    · exact sound.posts other r isR
  · rw [show (Shift.steps { s with posts := s.posts.set slot q }) = s.steps from rfl, ← sound.crew]
    refine congrArg Crew.mk (List.ext_getElem? fun other => ?_)
    rw [List.getElem?_map, getElem?_set_post at_, List.getElem?_map]
    split
    · next same =>
      subst same
      rw [at_, Option.map_some, Option.map_some, sameHeld]
    · rfl
  · intro other r call way isR isCall
    rw [getElem?_set_post at_] at isR
    split at isR
    · next same =>
      cases isR
      subst same
      rw [sameMember]
      exact sound.calls _ p call way at_ (sameCall call way isCall)
    · exact sound.calls other r call way isR isCall
  · intro call a told way other isAsked isTold isStep
    rcases sound.returns call a told way other isAsked isTold isStep with none | ⟨r, was, gone, eq⟩
    · exact .inl none
    · right
      by_cases same : other = slot
      · subst same
        rw [at_] at was
        cases was
        refine ⟨q, ?_, ?_, ?_⟩
        · rw [getElem?_set_post at_, if_pos rfl]
        · rw [keeps way gone, gone, sameMember]
        · rw [eq, sameMember]
      · refine ⟨r, ?_, gone, eq⟩
        rw [getElem?_set_post at_, if_neg same]
        exact was

/-- A call gives its answer when its handle is gone. -/
theorem Sound.tell {s : Shift} (sound : s.Sound) {call slot : Nat} {way : Way} {p : Post}
    (begun : s.steps[call]? = some (way.step slot))
    (due : (({} : Crew).tells s.steps)[call]? = some (p.member.told way))
    (at_ : s.posts[slot]? = some p) (gone : p.hold = p.member.left way) :
    (s.tell (some (call, p.member.told way))).Sound := by
  have asked (other : Nat) :
      (s.tell (some (call, p.member.told way))).asked[other]? =
        if call = other then (s.asked[other]?).map fun a =>
          { a with told := some (p.member.told way) }
        else s.asked[other]? := by
    rw [Shift.tell, List.getElem?_modify]
    split <;> cases s.asked[other]? <;> simp_all
  have steps : (s.tell (some (call, p.member.told way))).steps = s.steps := by
    refine List.ext_getElem? fun other => ?_
    rw [Shift.steps, List.getElem?_map, asked, Shift.steps, List.getElem?_map]
    split
    · cases s.asked[other]? <;> rfl
    · rfl
  refine ⟨sound.posts, ?_, ?_, ?_, ?_⟩
  · rw [steps, ← sound.crew]
    rfl
  · rw [steps]
    exact sound.calls
  · intro other a told isAsked isTold
    rw [steps]
    rw [asked] at isAsked
    split at isAsked
    · next same =>
      subst same
      obtain ⟨old, -, rfl⟩ := Option.map_eq_some_iff.1 isAsked
      cases isTold
      exact due
    · exact sound.answers other a told isAsked isTold
  · intro other a told which spot isAsked isTold isStep
    rw [asked] at isAsked
    split at isAsked
    · next same =>
      subst same
      obtain ⟨old, was, rfl⟩ := Option.map_eq_some_iff.1 isAsked
      cases isTold
      have isOld : s.steps[call]? = some old.step := by
        rw [Shift.steps, List.getElem?_map, was]
        rfl
      rw [begun] at isOld
      obtain ⟨rfl, rfl⟩ := Way.step_inj ((Option.some.inj isOld).trans isStep)
      exact .inr ⟨p, at_, gone, rfl⟩
    · exact sound.returns other a told which spot isAsked isTold isStep

/-- **One move** keeps a shift as it should be. -/
theorem Sound.step {s after : Shift} {move : Move} (sound : s.Sound)
    (moved : s.step move = some after) : after.Sound := by
  cases move with
  | begin step =>
    cases moved
    exact sound.begin step
  | work slot =>
    obtain ⟨p, at_, rest⟩ := Option.bind_eq_some_iff.1 moved
    obtain ⟨q, worked, eq⟩ := Option.bind_eq_some_iff.1 rest
    cases eq
    obtain ⟨isSound, member, hold⟩ := (sound.posts slot p at_).work worked
    refine sound.replace at_ isSound member ?_ ?_ fun _ _ => hold
    · simp only [Post.member?, hold, member]
    · intro call way isCall
      simpa only [Post.call?, hold] using isCall
  | proceed slot =>
    obtain ⟨p, at_, rest⟩ := Option.bind_eq_some_iff.1 moved
    obtain ⟨⟨q, told⟩, went, eq⟩ := Option.bind_eq_some_iff.1 rest
    cases eq
    obtain ⟨isSound, member, notHeld, stillNot, call, way, calling, outcome⟩ :=
      (sound.posts slot p at_).proceed went
    have notGone (way : Way) : p.hold ≠ p.member.left way := by
      intro gone
      cases way <;> simp [Post.call?, gone, Member.left] at calling
    have replaced : Sound { s with posts := s.posts.set slot q } := by
      refine sound.replace at_ isSound member (by rw [notHeld, stillNot]) ?_
        fun way gone => absurd gone (notGone way)
      intro other which isCall
      rcases outcome with ⟨-, same⟩ | ⟨-, ended, -⟩
      · rw [calling, ← same, isCall]
      · rw [ended] at isCall
        cases isCall
    rcases outcome with ⟨rfl, -⟩ | ⟨rfl, -, gone⟩
    · exact replaced
    · obtain ⟨begun, due⟩ := sound.calls slot p call way at_ calling
      rw [← member] at due gone ⊢
      refine replaced.tell begun due ?_ gone
      rw [getElem?_set_post at_, if_pos rfl]

/-- Every list of moves keeps a shift as it should be. -/
theorem Sound.play {s : Shift} (sound : s.Sound) (moves : List Move) : (s.play moves).Sound := by
  induction moves generalizing s with
  | nil => exact sound
  | cons move moves ih =>
    rw [Shift.play, List.foldl_cons]
    cases moved : s.step move with
    | none => exact ih sound
    | some after => exact ih (sound.step moved)

end Shift

/-! ## Reaching the end

Whatever is under way can be brought to an end: what has to wait waits for a worker, and a worker
waits for nothing. -/

/-- A bound on the steps that a worker has to its end. -/
def Progress.distance : Progress → Nat
  | .running g => g.distance + 1
  | .ended _ => 0

/-- A bound on what is to be done until a handle is gone. -/
def Hold.distance : Hold → Nat
  | .held _ => 3
  | .joining _ _ => 2
  | .leaving _ _ _ _ => 1
  | .gone _ => 0

/-- A bound on the moves that are to be made until a handle is gone. -/
def Post.distance (p : Post) : Nat :=
  p.progress.distance + p.hold.distance

/-- A worker that has not ended can go on, which brings it closer to its end. -/
theorem Post.Sound.work_closer {p : Post} (sound : p.Sound) {g : Greeter}
    (running : p.progress = .running g) :
    ∃ q, p.work = some q ∧ q.member = p.member ∧ q.distance < p.distance := by
  obtain ⟨m, hold, progress, output, waits⟩ := p
  have runs : progress.Runs m output := sound.runs
  subst running
  cases runs with
  | silent quiet => exact ⟨_, rfl, rfl, by simp [distance, Progress.distance]⟩
  | greeting greets whole =>
    cases due : g.next with
    | none =>
      simp only [Post.work, due]
      exact ⟨_, rfl, rfl, by simp [distance, Progress.distance]⟩
    | some call =>
      obtain ⟨-, closer, -⟩ := whole.resume due
      simp only [Post.work, due]
      refine ⟨_, rfl, rfl, ?_⟩
      simp only [distance, Progress.distance]
      omega

theorem Post.await_ended {m : Member} {hold : Hold} {ending : Option Panic} {output : List UInt8}
    {waits : List Way} {handle : Handle} (full : handle.inner.isSome) (way : Way) :
    (⟨m, hold, .ended ending, output, waits⟩ : Post).await way handle =
      some (⟨m, hold, .ended ending, output, waits ++ [way]⟩, ending) := by
  obtain ⟨worker, inner⟩ := Option.isSome_iff_exists.1 full
  simp [await, inner]

/-- A call whose worker has ended can go on, which brings it closer to its end. -/
theorem Post.Sound.proceed_closer {p : Post} (sound : p.Sound) {ending : Option Panic}
    (ended : p.progress = .ended ending) {call : Nat} {way : Way}
    (calling : p.call? = some (call, way)) :
    ∃ q told, p.proceed = some (q, told) ∧ q.member = p.member ∧ q.distance < p.distance := by
  obtain ⟨m, hold, progress, output, waits⟩ := p
  have stands : hold.Stands m waits progress := sound.stands
  have full : m.handle.inner.isSome := sound.created
  subst ended
  cases stands with
  | held => cases calling
  | goneJoined => cases calling
  | goneDropped => cases calling
  | joining =>
    simp only [Post.proceed, await_ended full, Option.map_some]
    exact ⟨_, _, rfl, rfl, by simp [distance, Hold.distance]⟩
  | dropping =>
    simp only [Post.proceed, await_ended full, Option.map_some]
    exact ⟨_, _, rfl, rfl, by simp [distance, Hold.distance]⟩
  | joined => exact ⟨_, _, rfl, rfl, by simp [distance, Hold.distance]⟩

namespace Shift

/-- **A move can be made as long as a handle is not gone**, and it brings that handle closer to
its end: it is dropped if it is in its slot, else its worker goes on, else the call that has it. -/
theorem Sound.advance {s : Shift} (sound : s.Sound) {slot : Nat} {p : Post}
    (at_ : s.posts[slot]? = some p) (present : ∀ report, p.hold ≠ .gone report) :
    ∃ move after q, s.step move = some after ∧ after.posts = s.posts.set slot q ∧
      q.member = p.member ∧ q.distance < p.distance := by
  have isSound := sound.posts slot p at_
  by_cases isHeld : ∃ m, p.member? = some m
  · obtain ⟨m, isHeld⟩ := isHeld
    have found : s.crew.find? slot = some m := by
      simp [Shift.crew, Crew.find?, at_, isHeld]
    refine ⟨.begin (.drop slot), _, { p with hold := .leaving s.asked.length m.handle none [] },
      rfl, ?_, rfl, ?_⟩
    · simp only [Shift.begin, found]
      exact posts_place at_ _
    · obtain ⟨-, held⟩ := isSound.eq_of_member? isHeld
      simp [Post.distance, Hold.distance, held]
  · cases far : p.progress with
    | running g =>
      obtain ⟨q, worked, member, closer⟩ := isSound.work_closer far
      have moved : s.step (.work slot) = some { s with posts := s.posts.set slot q } := by
        simp [Shift.step, at_, worked]
      exact ⟨.work slot, _, q, moved, rfl, member, closer⟩
    | ended ending =>
      obtain ⟨call, way, calling⟩ : ∃ call way, p.call? = some (call, way) := by
        cases hold : p.hold with
        | held handle => simp [Post.member?, hold] at isHeld
        | joining call handle => exact ⟨call, .join, by simp [Post.call?, hold]⟩
        | leaving call handle report events =>
          cases report with
          | none => exact ⟨call, .drop, by simp [Post.call?, hold]⟩
          | some report => exact ⟨call, .join, by simp [Post.call?, hold]⟩
        | gone report => exact absurd hold (present report)
      obtain ⟨q, told, went, member, closer⟩ := isSound.proceed_closer far calling
      have moved : s.step (.proceed slot) =
          some ({ s with posts := s.posts.set slot q }.tell told) := by
        simp [Shift.step, at_, went]
      refine ⟨.proceed slot, _, q, moved, ?_, member, closer⟩
      cases told <;> rfl

/-- The members there have been. -/
def members (s : Shift) : List Member :=
  s.posts.map (·.member)

/-- A bound on the moves that are to be made until all handles are gone. -/
def distance (s : Shift) : Nat :=
  (s.posts.map Post.distance).sum

theorem distance_set_lt {posts : List Post} {slot : Nat} {p q : Post}
    (at_ : posts[slot]? = some p) (closer : q.distance < p.distance) :
    ((posts.set slot q).map Post.distance).sum < (posts.map Post.distance).sum := by
  obtain ⟨lt, rfl⟩ := List.getElem?_eq_some_iff.1 at_
  have before := List.sum_set (posts.map Post.distance) slot (posts[slot].distance)
  have after := List.sum_set (posts.map Post.distance) slot q.distance
  simp only [List.length_map, lt, if_true, ← List.map_set, List.set_getElem_self] at before after
  omega

theorem members_set {posts : List Post} {slot : Nat} {p q : Post} (at_ : posts[slot]? = some p)
    (same : q.member = p.member) :
    (posts.set slot q).map (·.member) = posts.map (·.member) := by
  obtain ⟨lt, rfl⟩ := List.getElem?_eq_some_iff.1 at_
  rw [List.map_set, same, ← List.map_set, List.set_getElem_self]

/-- **From wherever a shift stands, it can go on until every handle is gone.** -/
theorem Sound.finish {s : Shift} (sound : s.Sound) :
    ∃ more, (s.play more).members = s.members ∧
      ∀ p ∈ (s.play more).posts, ∃ report, p.hold = .gone report := by
  induction left : s.distance using Nat.strongRecOn generalizing s with
  | ind n ih =>
    by_cases all : ∀ p ∈ s.posts, ∃ report, p.hold = .gone report
    · exact ⟨[], rfl, all⟩
    · simp only [not_forall, not_exists] at all
      obtain ⟨p, mem, present⟩ := all
      obtain ⟨slot, at_⟩ := List.mem_iff_getElem?.1 mem
      obtain ⟨move, after, q, moved, posts, member, closer⟩ := sound.advance at_ present
      have less : after.distance < n := by
        rw [← left, distance, distance, posts]
        exact distance_set_lt at_ closer
      obtain ⟨more, members, gone⟩ := ih _ less (sound.step moved) rfl
      have play : s.play (move :: more) = after.play more := by
        rw [Shift.play, List.foldl_cons, moved]
        rfl
      refine ⟨move :: more, ?_, by rw [play]; exact gone⟩
      rw [play, members, Shift.members, posts, members_set at_ member, Shift.members]

/-! ## The others -/

/-- **A move about one handle** leaves every other handle, its worker and what has waited for it
as they were. -/
theorem step_frame {s after : Shift} {move : Move} (moved : s.step move = some after) {slot : Nat}
    {p : Post} (at_ : s.posts[slot]? = some p) (other : move.slot? ≠ some slot) :
    after.posts[slot]? = some p := by
  have place (a : Nat) (hold : Hold) (ne : a ≠ slot) :
      (s.place a hold).posts[slot]? = some p := by
    simp [Shift.place, ne, at_]
  have set (a : Nat) (q : Post) (ne : a ≠ slot) : (s.posts.set a q)[slot]? = some p := by
    rw [List.getElem?_set_ne ne, at_]
  cases move with
  | begin step =>
    cases moved
    cases step with
    | spawn launcher who entry refusal =>
      rw [Shift.begin]
      split
      · exact at_
      · exact getElem?_concat_of_some _ at_
    | debug a =>
      rw [Shift.begin]
      split <;> exact at_
    | join a =>
      have ne : a ≠ slot := fun same => other (congrArg some same)
      rw [Shift.begin]
      split
      · exact at_
      · exact place a _ ne
    | drop a =>
      have ne : a ≠ slot := fun same => other (congrArg some same)
      rw [Shift.begin]
      split
      · exact at_
      · exact place a _ ne
  | work a =>
    have ne : a ≠ slot := fun same => other (congrArg some same)
    obtain ⟨r, -, rest⟩ := Option.bind_eq_some_iff.1 moved
    obtain ⟨q, -, eq⟩ := Option.bind_eq_some_iff.1 rest
    cases eq
    exact set a q ne
  | proceed a =>
    have ne : a ≠ slot := fun same => other (congrArg some same)
    obtain ⟨r, -, rest⟩ := Option.bind_eq_some_iff.1 moved
    obtain ⟨⟨q, told⟩, -, eq⟩ := Option.bind_eq_some_iff.1 rest
    cases eq
    cases told <;> exact set a q ne

/-! ## Every list of moves -/

/-- **However handles are spawned, shown, joined and dropped, and however the workers go on in
between**: every member is accounted for; a join or a drop that has answered has taken a handle
that is gone, and answers about its worker, a drop without any report; the answers are those of the
crew one step after the other; a move about one handle leaves the others as they were; and the
shift can go on until every worker there has been was waited for, once. -/
theorem play_accounted (moves : List Move) :
    (∀ p ∈ (play {} moves).posts, p.Accounted) ∧
    (∀ (call : Nat) (a : Asked) (told : Told) (way : Way) (slot : Nat),
      (play {} moves).asked[call]? = some a → a.told = some told → a.step = way.step slot →
        told.answer = .noSuchHandle ∨
          ∃ p : Post, (play {} moves).posts[slot]? = some p ∧ p.hold = p.member.left way ∧
            told = p.member.told way) ∧
    ((play {} moves).crew = ({} : Crew).after (play {} moves).steps ∧
      ∀ (call : Nat) (a : Asked) (told : Told), (play {} moves).asked[call]? = some a →
        a.told = some told →
          (({} : Crew).tells (play {} moves).steps)[call]? = some told) ∧
    (∀ (move : Move) (after : Shift) (slot : Nat) (p : Post),
      (play {} moves).step move = some after → (play {} moves).posts[slot]? = some p →
        move.slot? ≠ some slot → after.posts[slot]? = some p) ∧
    ∃ more, (play {} (moves ++ more)).members = (play {} moves).members ∧
      ∀ p ∈ (play {} (moves ++ more)).posts,
        p.progress = .ended p.member.ending ∧ (p.waits = [.join] ∨ p.waits = [.drop]) := by
  have sound : (play {} moves).Sound := sound_empty.play moves
  refine ⟨?_, sound.returns, ⟨sound.crew, sound.answers⟩, ?_, ?_⟩
  · intro p mem
    obtain ⟨slot, at_⟩ := List.mem_iff_getElem?.1 mem
    exact (sound.posts slot p at_).accounted
  · intro move after slot p moved at_ other
    exact step_frame moved at_ other
  · obtain ⟨more, members, gone⟩ := sound.finish
    have append : play {} (moves ++ more) = (play {} moves).play more := List.foldl_append
    refine ⟨more, by rw [append, members], ?_⟩
    intro p mem
    rw [append] at mem
    obtain ⟨report, isGone⟩ := gone p mem
    obtain ⟨slot, at_⟩ := List.mem_iff_getElem?.1 mem
    obtain ⟨ended, waits⟩ := ((sound.play more).posts slot p at_).accounted.gone report isGone
    refine ⟨ended, ?_⟩
    cases report with
    | none => exact .inr waits
    | some report => exact .inl waits

end Shift

end Duet
