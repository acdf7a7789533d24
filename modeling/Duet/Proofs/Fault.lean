import Duet.Proofs.CommandLine.Values

/-!
# Which texts name a fault

A fault is looked for in the lower-case form of a text, and lowering takes in every character there
is: some outside ASCII become letters of it, and one becomes two characters. So a text might name a
fault without being its word. It does not.

**A text is read as a fault exactly if it is the fault's word, with letters of either case**
(`Fault.read_eq_ok`). Of the characters outside ASCII only the capital I with a dot and the Kelvin
sign have a small letter of ASCII in their lower-case form (`Text.toLower_of_mem_lowerChar`); the
first leaves its dot behind, and the letter of the second is in neither word.

Nothing here depends on what becomes of a capital sigma. `Text.Lowers` leaves both its forms open,
and the words are found by each lowering alike (`Fault.eq_word_iff_spelled`).
-/

namespace Duet

namespace Text

/-! ## Lowering -/

/-- A small letter of ASCII. -/
def IsSmall (c : Char) : Prop :=
  97 ≤ c.toNat ∧ c.toNat ≤ 122

instance (c : Char) : Decidable (IsSmall c) :=
  inferInstanceAs (Decidable (_ ∧ _))

/-- A letter of ASCII, of either case. -/
def IsLetter (c : Char) : Prop :=
  65 ≤ c.toNat ∧ c.toNat ≤ 90 ∨ IsSmall c

theorem isLetter_of_toLower {c : Char} (small : IsSmall c.toLower) : IsLetter c := by
  rcases toLower_cases c with ⟨low, high, -⟩ | ⟨-, same⟩
  · exact .inl ⟨low, high⟩
  · rw [same] at small
    exact .inr small

/-- A text lowered character by character. A capital sigma has its usual form, or the one for the
end of a word. -/
inductive Lowers : List Char → List Char → Prop where
  | nil : Lowers [] []
  | cons (c : Char) {text lowered : List Char} (rest : Lowers text lowered) :
    Lowers (c :: text) (lowerChar c ++ lowered)
  | final {text lowered : List Char} (rest : Lowers text lowered) :
    Lowers ('\u03A3' :: text) ('\u03C2' :: lowered)

theorem lowers_lower (text : List Char) : Lowers text (lower text) := by
  induction text with
  | nil => exact .nil
  | cons c text ih =>
    rw [lower, List.flatMap_cons]
    exact .cons c ih

/-- The character of a code is its own, unless the code is that of no character. -/
theorem toNat_charOfNat {n : Nat} (positive : 0 < (Char.ofNat n).toNat) : (Char.ofNat n).toNat = n := by
  by_cases valid : n.isValidChar
  · have isChar : Char.ofNat n = Char.ofNatAux n valid := dif_pos valid
    rw [isChar]
    rfl
  · have isNul : Char.ofNat n = '\x00' := dif_neg valid
    rw [isNul] at positive
    exact absurd positive (by decide)

/-- Two runs of the table lead to small letters of ASCII: its capitals, and the Kelvin sign. -/
theorem caseRuns_cases {run : CaseRun} (isRun : run ∈ caseRuns) :
    run = ⟨0x41, 0x5A, 1, 32⟩ ∨ run = ⟨0x212A, 0x212A, 1, -8383⟩ ∨ 122 < run.first + run.offset := by
  revert run
  decide +kernel

/-- **A small letter in a lower-case form** comes from the letter itself, of either case, or from
one of two characters outside ASCII. -/
theorem toLower_of_mem_lowerChar {c l : Char} (isIn : l ∈ lowerChar c) (small : IsSmall l) :
    c.toLower = l ∨ c = '\u0130' ∨ c = '\u212A' ∧ l = 'k' := by
  obtain ⟨low, high⟩ := small
  unfold lowerChar at isIn
  split at isIn
  · next dotted => exact .inr (.inl dotted)
  · split at isIn
    · next run found =>
      rw [List.mem_singleton] at isIn
      have member := List.find?_some found
      simp only [CaseRun.contains, Bool.and_eq_true, decide_eq_true_eq] at member
      obtain ⟨⟨first, last⟩, -⟩ := member
      have moved : l.toNat = (c.toNat + run.offset).toNat := by
        subst isIn
        exact toNat_charOfNat (by omega)
      rcases caseRuns_cases (List.mem_of_find?_eq_some found) with rfl | rfl | beyond
      · rcases toLower_cases c with ⟨-, -, lowered⟩ | ⟨notCapital, -⟩
        · exact .inl (Char.toNat_inj.1 (by simp only at moved; omega))
        · exact absurd ⟨first, last⟩ notCapital
      · have kelvin : c.toNat = 0x212A := Nat.le_antisymm last first
        rw [kelvin] at moved
        exact .inr (.inr ⟨Char.toNat_inj.1 kelvin, Char.toNat_inj.1 moved⟩)
      · omega
    · rw [List.mem_singleton] at isIn
      rcases toLower_cases c with ⟨-, capital, -⟩ | ⟨-, same⟩
      · rw [isIn] at low
        omega
      · exact .inl (same.trans isIn.symm)

/-- A character whose lower-case form has small letters only, and no `k`, is one of these letters. -/
theorem lowerChar_eq_singleton {c : Char} (small : ∀ l ∈ lowerChar c, IsSmall l ∧ l ≠ 'k') :
    lowerChar c = [c.toLower] := by
  have nonempty : lowerChar c ≠ [] := by
    unfold lowerChar
    split
    · simp
    · split <;> simp
  obtain ⟨l, isIn⟩ := List.exists_mem_of_ne_nil _ nonempty
  obtain ⟨isSmall, notK⟩ := small l isIn
  rcases toLower_of_mem_lowerChar isIn isSmall with rfl | rfl | ⟨-, isK⟩
  · exact lowerChar_of_toLower isSmall.1 isSmall.2
  · -- The dot above stays behind as a character of its own.
    exact absurd (small '\u0307' (by decide)).1 (by decide)
  · exact absurd isK notK

/-- **Lowering finds a word of small letters without `k` exactly in its own letters**, each of
either case. -/
theorem Lowers.eq_iff {text lowered word : List Char} (lowers : Lowers text lowered)
    (letters : ∀ l ∈ word, IsSmall l ∧ l ≠ 'k') :
    lowered = word ↔ text.map Char.toLower = word := by
  induction lowers generalizing word with
  | nil => rfl
  | @cons c text lowered rest ih =>
    constructor
    · rintro rfl
      have own := lowerChar_eq_singleton fun l isIn => letters l (List.mem_append_left _ isIn)
      have more := (ih fun l isIn => letters l (List.mem_append_right _ isIn)).1 rfl
      rw [List.map_cons, more, own]
      rfl
    · rintro rfl
      have own := letters c.toLower List.mem_cons_self
      rw [lowerChar_of_toLower own.1.1 own.1.2,
        (ih fun l isIn => letters l (List.mem_cons_of_mem _ isIn)).2 rfl]
      rfl
  | final =>
    -- Neither form of the sigma is a letter of the word.
    constructor
    · rintro rfl
      exact absurd (letters _ List.mem_cons_self).1 (by decide)
    · rintro rfl
      exact absurd (letters _ List.mem_cons_self).1 (by decide)

end Text

/-! ## Faults -/

namespace Fault

theorem word_letters (f : Fault) : ∀ l ∈ f.word.toList, Text.IsSmall l ∧ l ≠ 'k' := by
  have letters : f.word.toList.all (fun l => Text.IsSmall l ∧ l ≠ 'k') = true := by
    cases f <;> decide
  intro l isIn
  exact of_decide_eq_true (List.all_eq_true.1 letters l isIn)

/-- Every lowering of a text tells alike whether the text spells a fault. -/
theorem eq_word_iff_spelled {f : Fault} {text lowered : List Char}
    (lowers : Text.Lowers text lowered) : lowered = f.word.toList ↔ f.Spelled text :=
  lowers.eq_iff f.word_letters

theorem ofText?_eq_some {f : Fault} {text : List Char} : ofText? text = some f ↔ f.Spelled text := by
  constructor
  · intro found
    unfold ofText? at found
    refine (eq_word_iff_spelled (Text.lowers_lower text)).1 ?_
    dsimp only at found
    split at found
    · next isSpawn =>
      cases found
      exact isSpawn
    · split at found
      · next isJoin =>
        cases found
        exact isJoin
      · cases found
  · exact Spelled.ofText?_eq

theorem read_eq_ok {f : Fault} {text : List Char} : read text = .ok f ↔ f.Spelled text := by
  rw [← ofText?_eq_some, read]
  cases ofText? text <;> simp

theorem read_eq_error {text : List Char} {message : String} :
    read text = .error message ↔ (∀ f : Fault, ¬ f.Spelled text) ∧ message = refusal text := by
  simp only [← ofText?_eq_some, read]
  cases ofText? text <;> simp [eq_comm]

/-- A spelling has the letters of the word, one for one. -/
theorem Spelled.letters {f : Fault} {text : List Char} (spelled : f.Spelled text) :
    text.length = f.word.toList.length ∧ ∀ c ∈ text, Text.IsLetter c := by
  constructor
  · rw [← spelled, List.length_map]
  · intro c isIn
    apply Text.isLetter_of_toLower
    exact (f.word_letters _ (spelled ▸ List.mem_map_of_mem isIn)).1

/-- **Which texts are read as faults, and what is said of the others.** A text is read exactly if it
spells the fault, however it is lowered; its letters are then those of the word, so that nothing else
can stand in it or around it. Every other text is quoted as it was given. -/
theorem read_exactly_spelled (text : List Char) :
    (∀ f, read text = .ok f ↔ f.Spelled text) ∧
    (∀ message, read text = .error message ↔ (∀ f : Fault, ¬ f.Spelled text) ∧
      message = "Expected spawn|join, could not parse: " ++ String.ofList (Text.quote text)) ∧
    (∀ f : Fault, read f.word.toList = .ok f) ∧
    (∀ f : Fault, f.Spelled text → text.length = f.word.toList.length ∧
      ∀ c ∈ text, Text.IsLetter c) ∧
    ∀ (f : Fault) (lowered : List Char), Text.Lowers text lowered →
      (lowered = f.word.toList ↔ f.Spelled text) := by
  refine ⟨fun f => read_eq_ok, fun message => read_eq_error, fun f => ?_, fun f => Spelled.letters,
    fun f lowered => eq_word_iff_spelled⟩
  refine read_eq_ok.2 ?_
  cases f <;> decide

/-- A word in mixed letters, and one with a dotted capital in the place of its `i`. -/
theorem read_exactly_spelled_dotted :
    read "jOiN".toList = .ok .join ∧
    Text.lower "jo\u0130n".toList = "joi\u0307n".toList ∧
    read "jo\u0130n".toList =
      .error "Expected spawn|join, could not parse: \"jo\u0130n\"" := by
  refine ⟨((read_exactly_spelled _).1 .join).2 (by decide), by decide +kernel, ?_⟩
  refine ((read_exactly_spelled _).2.1 _).2 ⟨?_, by decide +kernel⟩
  intro f
  cases f <;> decide

end Fault

end Duet
