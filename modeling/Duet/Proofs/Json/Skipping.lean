import Duet.Proofs.Json.Numbers

/-!
# Passing over values of any depth

The walk over a value keeps its open brackets on a stack and is bounded by a number of pieces.
Here every value of the grammar is shown to be passed over exactly, whatever it holds and however
deep it goes, and the bound to suffice.

**The walk ends where the value ends** (`skipValue_append`). Since the walk has one result, a
value in front of a rest is found in one way only (`IsValue.unique`).

The induction is over the derivation of a part. It carries the number of pieces that a part takes,
at most two for each of its characters, and leaves the rest and the stack below untouched.

What this does not establish: that everything passed over is a value.
-/

namespace Duet.Json

open Text (isDigit)

/-! ## Steps of the walk -/

/-- The walk comes from one place to another in the given number of pieces. -/
def Passes (s : Walk) (text : List Char) (s' : Walk) (rest : List Char) (pieces : Nat) : Prop :=
  ∀ more, skipFrom (more + pieces) s text = skipFrom more s' rest

namespace Passes

variable {s s' s'' : Walk} {text text' rest : List Char} {i j : Nat}

theorem trans (first : Passes s text s' text' i) (second : Passes s' text' s'' rest j) :
    Passes s text s'' rest (j + i) := by
  intro more
  rw [← Nat.add_assoc, first, second]

theorem value {stack : List Bracket}
    (taken : skipSimple stack (skipBlank text) = .ok (s', rest)) :
    Passes (.value stack) text s' rest 1 := by
  intro more
  rw [skipFrom, taken]
  rfl

theorem opened {top : Bracket} {below : List Bracket}
    (taken : skipOpened top below (skipBlank text) = .ok (s', rest)) :
    Passes (.opened top below) text s' rest 1 := by
  intro more
  rw [skipFrom, taken]
  rfl

theorem ended {top : Bracket} {below : List Bracket}
    (taken : skipEnded top below (skipBlank text) = .ok (s', rest)) :
    Passes (.ended (top :: below)) text s' rest 1 := by
  intro more
  rw [skipFrom, taken]
  rfl

end Passes

/-! ## Values without parts -/

/-- One of the three words that are values. -/
def IsWord (w : List Char) : Prop :=
  w = "null".toList ∨ w = "true".toList ∨ w = "false".toList

theorem skipSimple_word {w : List Char} (word : IsWord w) (stack : List Bracket)
    (rest : List Char) : skipSimple stack (w ++ rest) = .ok (.ended stack, rest) := by
  rcases word with rfl | rfl | rfl <;> simp [skipSimple, readWord, bind, Except.bind]

theorem skipSimple_string {w : List Char} (literal : Literal w) (stack : List Bracket)
    (rest : List Char) :
    skipSimple stack ('"' :: w ++ ['"'] ++ rest) = .ok (.ended stack, rest) := by
  have passed := skipString_append literal rest
  have shape : '"' :: w ++ ['"'] ++ rest = '"' :: (w ++ '"' :: rest) := by simp
  rw [shape]
  simp [skipSimple, isDigit, passed, bind, Except.bind]

theorem skipSimple_number {w rest : List Char} (number : IsNumber w) (detached : Detached rest)
    (stack : List Bracket) : skipSimple stack (w ++ rest) = .ok (.ended stack, rest) := by
  cases number with
  | positive whole fraction exponent =>
    have passed := skipNumber_append whole fraction exponent detached
    obtain ⟨c, more, rfl, digit⟩ := whole.head
    have ne := ne_of_isDigit digit
    simp only [List.cons_append, List.append_assoc] at passed ⊢
    simp [skipSimple, digit, passed, bind, Except.bind, ne 'n' (by decide), ne 't' (by decide),
      ne 'f' (by decide), ne '-' (by decide)]
  | negative whole fraction exponent =>
    have passed := skipNumber_append whole fraction exponent detached
    simp only [List.cons_append, List.append_assoc] at passed ⊢
    simp [skipSimple, passed, bind, Except.bind]

/-! ## Brackets -/

theorem skipSimple_opener (bracket : Bracket) (stack : List Bracket) (rest : List Char) :
    skipSimple stack (bracket.opener :: rest) = .ok (.opened bracket stack, rest) := by
  cases bracket <;> simp [skipSimple, Bracket.opener, isDigit]

theorem skipOpened_closer (top : Bracket) (below : List Bracket) (rest : List Char) :
    skipOpened top below (top.closer :: rest) = .ok (.ended below, rest) := by
  simp [skipOpened]

theorem skipEnded_closer (top : Bracket) (below : List Bracket) (rest : List Char) :
    skipEnded top below (top.closer :: rest) = .ok (.ended below, rest) := by
  simp [skipEnded]

theorem skipEnded_comma (top : Bracket) (below : List Bracket) (rest : List Char) :
    skipEnded top below (',' :: rest) = skipToValue top below rest := by
  cases top <;> simp [skipEnded, Bracket.closer]

theorem Bracket.closer_solid (bracket : Bracket) : isBlank bracket.closer = false := by
  cases bracket <;> decide

theorem Bracket.detached_closer (bracket : Bracket) (rest : List Char) :
    Detached (bracket.closer :: rest) := by
  cases bracket <;> exact .cons rest (by decide)

theorem detached_comma (rest : List Char) : Detached (',' :: rest) :=
  .cons rest (by decide)

/-- A key is passed over with the blanks around it. -/
theorem skipKey_append {text k b rest : List Char} (key : Literal k) (blanks : Blanks b)
    (shape : skipBlank text = '"' :: k ++ '"' :: b ++ ':' :: rest) :
    skipKey text = .ok rest := by
  have passed : skipString (k ++ '"' :: (b ++ ':' :: rest)) = .ok (b ++ ':' :: rest) :=
    skipString_append key _
  have colon : skipBlank (b ++ ':' :: rest) = ':' :: rest := by
    rw [blanks.skipBlank_cons (by decide)]
  have shape : skipBlank text = '"' :: (k ++ '"' :: (b ++ ':' :: rest)) := by simpa using shape
  rw [skipKey, shape]
  simp only [passed, bind, Except.bind, colon]

/-! ## Parts -/

/-- The walk goes to the next value inside a bracket and on from there. -/
def Enters (top : Bracket) (below : List Bracket) (text : List Char) (s : Walk)
    (rest : List Char) (pieces : Nat) : Prop :=
  ∃ next after, skipToValue top below text = .ok (next, after) ∧ Passes next after s rest pieces

/-- **What passing over a part means.** Blanks in front may have been passed over or not. -/
def Part.Passed : Part → List Char → Prop
  | .value, w => ∀ text stack rest, skipBlank text = w ++ rest → EndsBefore w rest →
    ∃ k ≤ 2 * w.length, Passes (.value stack) text (.ended stack) rest k
  | .entry top, w => ∀ text below rest, skipBlank text = skipBlank (w ++ rest) → Detached rest →
    ∃ k ≤ 2 * w.length, ∃ b, Blanks b ∧ Enters top below text (.ended (top :: below)) (b ++ rest) k
  | .entries top, w => ∀ text below rest, skipBlank text = skipBlank (w ++ top.closer :: rest) →
    ∃ k ≤ 2 * w.length + 1, Enters top below text (.ended below) rest k

/-- A part of a bracket does not begin with the bracket's end. -/
theorem Derives.entries_head {top : Bracket} {w : List Char} (derived : Derives (.entries top) w)
    (rest : List Char) : ∃ c more, skipBlank (w ++ rest) = c :: more ∧ c ≠ top.closer := by
  have entry_head {w : List Char} (entry : Derives (.entry top) w) (rest : List Char) :
      ∃ c more, skipBlank (w ++ rest) = c :: more ∧ c ≠ top.closer := by
    cases entry with
    | @element a w b before value after =>
      obtain ⟨c, more, rfl, solid, notClosed, _⟩ := value.head
      refine ⟨c, more ++ (b ++ rest), ?_, notClosed⟩
      rw [List.append_assoc, List.append_assoc, Json.skipBlank_append before, List.cons_append,
        skipBlank_cons solid]
    | @member a k b c w d before key colon lead value after =>
      refine ⟨'"', k ++ '"' :: (b ++ ':' :: (c ++ (w ++ (d ++ rest)))), ?_, by decide⟩
      simp only [List.append_assoc, List.cons_append]
      rw [before.skipBlank_cons (by decide)]
  cases derived with
  | one entry => exact entry_head entry rest
  | more entry _ =>
    rw [List.append_assoc]
    exact entry_head entry _

theorem passed_of_skipSimple {w : List Char} (nonempty : w ≠ [])
    (passed : ∀ stack rest, EndsBefore w rest →
      skipSimple stack (w ++ rest) = .ok (.ended stack, rest)) : Part.value.Passed w := by
  intro text stack rest shape ends
  refine ⟨1, ?_, .value (by rw [shape]; exact passed stack rest ends)⟩
  have := List.length_pos_iff.2 nonempty
  omega

theorem passed_empty {b : List Char} (bracket : Bracket) (blanks : Blanks b) :
    Part.value.Passed (bracket.opener :: b ++ [bracket.closer]) := by
  intro text stack rest shape _
  have shape : skipBlank text = bracket.opener :: (b ++ bracket.closer :: rest) := by
    simpa using shape
  have opens : Passes (.value stack) text (.opened bracket stack) (b ++ bracket.closer :: rest) 1 :=
    .value (by rw [shape]; exact skipSimple_opener bracket stack _)
  have closes :
      Passes (.opened bracket stack) (b ++ bracket.closer :: rest) (.ended stack) rest 1 := by
    refine .opened ?_
    rw [blanks.skipBlank_cons bracket.closer_solid]
    exact skipOpened_closer bracket stack rest
  refine ⟨_, ?_, opens.trans closes⟩
  simp only [List.cons_append, List.length_cons, List.length_append, List.length_nil]
  omega

theorem passed_bracket {w : List Char} {bracket : Bracket} (inside : Derives (.entries bracket) w)
    (passed : (Part.entries bracket).Passed w) :
    Part.value.Passed (bracket.opener :: w ++ [bracket.closer]) := by
  intro text stack rest shape _
  have shape : skipBlank text = bracket.opener :: (w ++ bracket.closer :: rest) := by
    simpa using shape
  have opens : Passes (.value stack) text (.opened bracket stack) (w ++ bracket.closer :: rest) 1 :=
    .value (by rw [shape]; exact skipSimple_opener bracket stack _)
  -- After the opener the blanks are passed over once more before the first value is looked for.
  obtain ⟨c, more, head, notClosed⟩ := inside.entries_head (bracket.closer :: rest)
  have again : skipBlank (skipBlank (w ++ bracket.closer :: rest)) =
      skipBlank (w ++ bracket.closer :: rest) := by
    rw [head]
    exact skipBlank_cons (isBlank_of_skipBlank head) more
  obtain ⟨k, bound, next, after, entered, onward⟩ :=
    passed (skipBlank (w ++ bracket.closer :: rest)) stack rest again
  have goes : Passes (.opened bracket stack) (w ++ bracket.closer :: rest) next after 1 := by
    refine .opened ?_
    rw [head] at entered ⊢
    simp only [skipOpened, notClosed, if_false]
    exact entered
  refine ⟨_, ?_, (opens.trans goes).trans onward⟩
  simp only [List.cons_append, List.length_cons, List.length_append, List.length_nil]
  omega

theorem passed_element {a w b : List Char} (before : Blanks a) (value : IsValue w)
    (after : Blanks b) (passed : Part.value.Passed w) :
    (Part.entry .list).Passed (a ++ w ++ b) := by
  intro text below rest shape detached
  have shape : skipBlank text = w ++ (b ++ rest) := by
    rw [shape, List.append_assoc, value.skipBlank_append before]
  obtain ⟨k, bound, onward⟩ := passed text (.list :: below) (b ++ rest) shape
    ((Detached.blanks after detached).endsBefore w)
  refine ⟨k, ?_, b, after, _, _, rfl, onward⟩
  simp only [List.length_append]
  omega

theorem passed_member {a k b c w d : List Char} (before : Blanks a) (key : Literal k)
    (colon : Blanks b) (lead : Blanks c) (value : IsValue w) (after : Blanks d)
    (passed : Part.value.Passed w) :
    (Part.entry .object).Passed (a ++ '"' :: k ++ '"' :: b ++ ':' :: c ++ w ++ d) := by
  intro text below rest shape detached
  have shape : skipBlank text = '"' :: k ++ '"' :: b ++ ':' :: (c ++ w ++ (d ++ rest)) := by
    rw [shape]
    simp only [List.append_assoc, List.cons_append]
    rw [before.skipBlank_cons (by decide)]
  have keyed := skipKey_append key colon shape
  obtain ⟨k, bound, onward⟩ := passed (c ++ w ++ (d ++ rest)) (.object :: below) (d ++ rest)
    (value.skipBlank_append lead _) ((Detached.blanks after detached).endsBefore w)
  refine ⟨k, ?_, d, after, .value (.object :: below), _, ?_, onward⟩
  · simp only [List.length_cons, List.length_append]
    omega
  · rw [skipToValue, keyed]
    rfl

theorem passed_one {w : List Char} {bracket : Bracket} (passed : (Part.entry bracket).Passed w) :
    (Part.entries bracket).Passed w := by
  intro text below rest shape
  obtain ⟨k, bound, b, blanks, next, after, entered, onward⟩ :=
    passed text below (bracket.closer :: rest) shape (bracket.detached_closer rest)
  have closes : Passes (.ended (bracket :: below)) (b ++ bracket.closer :: rest)
      (.ended below) rest 1 := by
    refine .ended ?_
    rw [blanks.skipBlank_cons bracket.closer_solid]
    exact skipEnded_closer bracket below rest
  exact ⟨_, by omega, next, after, entered, onward.trans closes⟩

theorem passed_more {w more : List Char} {bracket : Bracket}
    (passed : (Part.entry bracket).Passed w) (later : (Part.entries bracket).Passed more) :
    (Part.entries bracket).Passed (w ++ ',' :: more) := by
  intro text below rest shape
  have shape : skipBlank text = skipBlank (w ++ ',' :: (more ++ bracket.closer :: rest)) := by
    rw [shape, List.append_assoc, List.cons_append]
  obtain ⟨k, bound, b, blanks, next, after, entered, onward⟩ :=
    passed text below _ shape (detached_comma _)
  obtain ⟨k', bound', next', after', entered', onward'⟩ :=
    later (more ++ bracket.closer :: rest) below rest rfl
  have goes : Passes (.ended (bracket :: below)) (b ++ ',' :: (more ++ bracket.closer :: rest))
      next' after' 1 := by
    refine .ended ?_
    rw [blanks.skipBlank_cons (by decide), skipEnded_comma]
    exact entered'
  refine ⟨_, ?_, next, after, entered, (onward.trans goes).trans onward'⟩
  simp only [List.length_cons, List.length_append]
  omega

/-- **Every part is passed over exactly.** -/
theorem Derives.passed {part : Part} {w : List Char} (derived : Derives part w) :
    part.Passed w := by
  induction derived with
  | null => exact passed_of_skipSimple (by decide) fun s r _ => skipSimple_word (.inl rfl) s r
  | yes =>
    exact passed_of_skipSimple (by decide) fun s r _ => skipSimple_word (.inr (.inl rfl)) s r
  | no =>
    exact passed_of_skipSimple (by decide) fun s r _ => skipSimple_word (.inr (.inr rfl)) s r
  | number number =>
    exact passed_of_skipSimple (Derives.number number).ne_nil
      fun s r ends => skipSimple_number number (ends number) s
  | string literal =>
    exact passed_of_skipSimple (List.cons_ne_nil _ _) fun s r _ => skipSimple_string literal s r
  | empty bracket blanks => exact passed_empty bracket blanks
  | bracket inside ih => exact passed_bracket inside ih
  | element before value after ih => exact passed_element before value after ih
  | member before key colon lead value after ih =>
    exact passed_member before key colon lead value after ih
  | one _ ih => exact passed_one ih
  | more _ _ ih ih' => exact passed_more ih ih'

/-! ## Whole values -/

/-- **A value is passed over exactly**, with the blanks in front of it. -/
theorem skipValue_append {b w rest : List Char} (blanks : Blanks b) (value : IsValue w)
    (ends : EndsBefore w rest) : skipValue (b ++ w ++ rest) = .ok rest := by
  obtain ⟨k, bound, passes⟩ :=
    value.passed (b ++ w ++ rest) [] rest (value.skipBlank_append blanks rest) ends
  have enough : 2 * (b ++ w ++ rest).length + 2 = 2 * (b ++ w ++ rest).length + 2 - k + k := by
    simp only [List.length_append]
    omega
  rw [skipValue, enough, passes]
  cases 2 * (b ++ w ++ rest).length + 2 - k <;> rfl

/-- A value in front of a rest is found in one way only. -/
theorem IsValue.unique {b w rest b' w' rest' : List Char} (blanks : Blanks b) (value : IsValue w)
    (ends : EndsBefore w rest) (blanks' : Blanks b') (value' : IsValue w')
    (ends' : EndsBefore w' rest') (same : b ++ w ++ rest = b' ++ w' ++ rest') :
    w = w' ∧ rest = rest' := by
  have passed := skipValue_append blanks value ends
  rw [same, skipValue_append blanks' value' ends'] at passed
  have same_rest : rest = rest' := (Except.ok.inj passed).symm
  have left : w ++ rest = w' ++ rest' := by
    rw [← value.skipBlank_append blanks rest, same, value'.skipBlank_append blanks' rest']
  rw [same_rest] at left
  exact ⟨List.append_cancel_right left, same_rest⟩

end Duet.Json
