import Duet.CommandLine.Flag

/-!
# How the values of flags are written

A count is written in digits, a level as its number or its word, a fault as its word, and letters
may be of either case. What counts as a spelling is said here without reading anything.

**A number or a level is read from a text exactly if the text spells it**
(`Text.readUnsigned_eq_ok`, `Log.Level.read?_eq_some`), and **a fault is read from each of its
spellings** (`Fault.Spelled.ofText?_eq`).
-/

namespace Duet

/-! ## Numbers -/

namespace Text

/-- A text spells a number: digits, with any zeros in front, and before them at most one plus
sign. -/
def Numeral (n : Nat) (text : List Char) : Prop :=
  ∃ digits, (text = digits ∨ text = '+' :: digits) ∧ digits ≠ [] ∧
    (∀ c ∈ digits, isDigit c = true) ∧ numeralValue 0 digits = n

theorem readDigits_eq_ok {limit n m : Nat} (fits : n ≤ limit) (text : List Char) :
    readDigits limit n text = .ok m ↔
      (∀ c ∈ text, isDigit c = true) ∧ numeralValue n text = m ∧ m ≤ limit := by
  induction text generalizing n with
  | nil =>
    simp only [readDigits, numeralValue, List.foldl_nil, List.not_mem_nil]
    constructor
    · intro same
      cases same
      exact ⟨by simp, rfl, fits⟩
    · rintro ⟨-, rfl, -⟩
      rfl
  | cons c text ih =>
    have step : numeralValue n (c :: text) = numeralValue (n * 10 + digitValue c) text := rfl
    rw [readDigits, step]
    by_cases digit : isDigit c = true
    · rw [if_pos digit]
      by_cases small : n * 10 + digitValue c ≤ limit
      · simp only [if_pos small, ih small, List.forall_mem_cons, digit, true_and]
      · have grows := le_numeralValue (n * 10 + digitValue c) text
        simp only [if_neg small]
        constructor
        · intro same
          cases same
        · rintro ⟨-, rfl, le⟩
          omega
    · simp [digit]

/-- **Reading an unsigned number** succeeds exactly on its spellings, up to the limit. -/
theorem readUnsigned_eq_ok {limit n : Nat} (text : List Char) :
    readUnsigned limit text = .ok n ↔ Numeral n text ∧ n ≤ limit := by
  have plain (digits : List Char) (nonempty : digits ≠ []) :
      readDigits limit 0 digits = .ok n ↔
        (digits ≠ [] ∧ (∀ c ∈ digits, isDigit c = true) ∧ numeralValue 0 digits = n) ∧
          n ≤ limit := by
    rw [readDigits_eq_ok (Nat.zero_le limit)]
    simp [nonempty, and_assoc]
  unfold readUnsigned
  split
  · simp [Numeral]
  · constructor
    · intro same
      cases same
    · rintro ⟨⟨digits, rfl | same, nonempty, digit, -⟩, -⟩
      · exact absurd (digit '+' (by simp)) (by decide)
      · exact absurd (List.cons.inj same).2.symm nonempty
  · next rest notAlone =>
    rw [plain rest (fun nil => notAlone (by rw [nil]))]
    refine and_congr_left fun _ => ⟨fun spelled => ⟨rest, .inr rfl, spelled⟩, ?_⟩
    rintro ⟨digits, rfl | same, spelled⟩
    · exact absurd (spelled.2.1 '+' (by simp)) (by decide)
    · rwa [(List.cons.inj same).2]
  · next notEmpty _ notSigned =>
    rw [plain text notEmpty]
    refine and_congr_left fun _ => ⟨fun spelled => ⟨text, .inl rfl, spelled⟩, ?_⟩
    rintro ⟨digits, rfl | same, spelled⟩
    · exact spelled
    · exact absurd same (notSigned digits)

/-- A positive number is read from its spellings. -/
theorem readPositive_of_numeral {limit n : Nat} {text : List Char} (spelled : Numeral n text)
    (positive : 0 < n) (fits : n ≤ limit) : readPositive limit text = .ok n := by
  rw [readPositive, (readUnsigned_eq_ok text).2 ⟨spelled, fits⟩]
  exact if_neg (by omega)

end Text

/-! ## Letters -/

namespace Text

/-- Only the capital letters of ASCII are lowered, each by the same distance. -/
theorem toLower_cases (c : Char) :
    (65 ≤ c.toNat ∧ c.toNat ≤ 90 ∧ c.toLower.toNat = c.toNat + 32) ∨
      (¬ (65 ≤ c.toNat ∧ c.toNat ≤ 90) ∧ c.toLower = c) := by
  unfold Char.toLower
  split
  · next upper =>
    have low : 65 ≤ c.toNat := upper.1
    have high : c.toNat ≤ 90 := upper.2
    refine .inl ⟨low, high, ?_⟩
    show (c.val + 32).toNat = c.val.toNat + 32
    have high : c.val.toNat ≤ 90 := high
    rw [UInt32.toNat_add, Nat.mod_eq_of_lt]
    · rfl
    · have : (32 : UInt32).toNat = 32 := rfl
      omega
  · next other => exact .inr ⟨other, rfl⟩

theorem toLower_of_lt {c : Char} (lt : c.toNat < 65) : c.toLower = c := by
  rcases toLower_cases c with ⟨le, -, -⟩ | ⟨-, same⟩
  · omega
  · exact same

/-- A letter of either case has the small letter for its lower-case form. -/
theorem lowerChar_of_toLower {c : Char} (low : 97 ≤ c.toLower.toNat)
    (high : c.toLower.toNat ≤ 122) : lowerChar c = [c.toLower] := by
  have notDotted : c ≠ '\u0130' := by
    rintro rfl
    revert high
    decide
  rw [lowerChar, if_neg notDotted]
  rcases toLower_cases c with ⟨ge, le, lowered⟩ | ⟨-, same⟩
  · have capitals : caseRuns = ⟨0x41, 0x5A, 1, 32⟩ :: caseRuns.tail := rfl
    have isCapital : (CaseRun.mk 0x41 0x5A 1 32).contains c.toNat = true := by
      simp [CaseRun.contains, ge, le, Nat.mod_one]
    have found : caseRuns.find? (·.contains c.toNat) = some ⟨0x41, 0x5A, 1, 32⟩ := by
      rw [capitals]
      exact List.find?_cons_of_pos (p := fun run : CaseRun => run.contains c.toNat) isCapital
    rw [found]
    have moved : ((c.toNat : Int) + 32).toNat = c.toLower.toNat := by omega
    simp only [moved, Char.ofNat_toNat]
  · rw [same] at low high ⊢
    have outside : ∀ run ∈ caseRuns, run.last < 97 ∨ 122 < run.first := by
      decide +kernel
    have none : caseRuns.find? (·.contains c.toNat) = none := by
      refine List.find?_eq_none.2 fun run isRun => ?_
      rcases outside run isRun with before | after
      · simp only [CaseRun.contains, Bool.and_eq_true, decide_eq_true_eq]
        omega
      · simp only [CaseRun.contains, Bool.and_eq_true, decide_eq_true_eq]
        omega
    rw [none]

/-- A text whose letters are all of ASCII is lowered letter by letter. -/
theorem lower_eq_map {text : List Char}
    (letters : ∀ c ∈ text, 97 ≤ c.toLower.toNat ∧ c.toLower.toNat ≤ 122) :
    lower text = text.map Char.toLower := by
  induction text with
  | nil => rfl
  | cons c text ih =>
    obtain ⟨⟨low, high⟩, more⟩ := List.forall_mem_cons.1 letters
    rw [lower, List.flatMap_cons, lowerChar_of_toLower low high]
    exact congrArg _ (ih more)

end Text

/-! ## Faults -/

namespace Fault

/-- A text spells a fault: its word, with letters of either case. -/
def Spelled (f : Fault) (text : List Char) : Prop :=
  text.map Char.toLower = f.word.toList

instance (f : Fault) (text : List Char) : Decidable (f.Spelled text) :=
  inferInstanceAs (Decidable (_ = _))

theorem Spelled.ofText?_eq {f : Fault} {text : List Char} (spelled : f.Spelled text) :
    ofText? text = some f := by
  have letters : ∀ c ∈ text, 97 ≤ c.toLower.toNat ∧ c.toLower.toNat ≤ 122 := by
    have inWord : f.word.toList.all (fun l => 97 ≤ l.toNat ∧ l.toNat ≤ 122) = true := by
      cases f <;> decide
    intro c isIn
    apply of_decide_eq_true
    apply List.all_eq_true.1 inWord
    rw [← spelled]
    exact List.mem_map_of_mem isIn
  have lowered : Text.lower text = f.word.toList := by
    rw [Text.lower_eq_map letters, spelled]
  rw [ofText?, lowered]
  cases f <;> decide

theorem Spelled.read_eq {f : Fault} {text : List Char} (spelled : f.Spelled text) :
    read text = .ok f := by
  rw [read, spelled.ofText?_eq]

end Fault

/-! ## Levels -/

namespace Log.Level

/-- A text spells a level: its number, its word, with letters of either case, or, for errors only,
nothing. -/
def Spelled (l : Level) (text : List Char) : Prop :=
  (text = [] ∧ l = .upTo .error) ∨ Text.Numeral l.rank text ∨
    text.map Char.toLower = l.word.toList

theorem ofRank?_eq_some {n : Nat} {l : Level} : ofRank? n = some l ↔ n = l.rank := by
  constructor
  · intro found
    rcases n with _ | _ | _ | _ | _ | _ | n <;> cases found <;> rfl
  · rintro rfl
    rcases l with _ | _ | _ | _ | _ | _ <;> rfl

/-- A word is no number. -/
theorem not_numeral_of_word {l : Level} {text : List Char}
    (word : text.map Char.toLower = l.word.toList) (n : Nat) : ¬ Text.Numeral n text := by
  have small : l.word.toList.all (97 ≤ ·.toNat) = true := by
    rcases l with _ | _ | _ | _ | _ | _ <;> decide
  have letters : ∀ c ∈ text, 65 ≤ c.toNat := by
    intro c isIn
    have lowered : 97 ≤ c.toLower.toNat :=
      of_decide_eq_true (List.all_eq_true.1 small _ (word ▸ List.mem_map_of_mem isIn))
    rcases Nat.lt_or_ge c.toNat 65 with lt | ge
    · rw [Text.toLower_of_lt lt] at lowered
      omega
    · exact ge
  rintro ⟨digits, rfl | rfl, nonempty, digit, -⟩
  · obtain ⟨c, isIn⟩ := List.exists_mem_of_ne_nil text nonempty
    have isDigit := digit c isIn
    simp only [Text.isDigit, Bool.and_eq_true, decide_eq_true_eq] at isDigit
    have le : c.toNat ≤ 57 := isDigit.2
    have ge := letters c isIn
    omega
  · exact absurd (letters '+' List.mem_cons_self) (by decide)

theorem ranked_eq_some {l : Level} {text : List Char} :
    (Text.readUnsigned 0xFFFF_FFFF_FFFF_FFFF text).toOption.bind ofRank? = some l ↔
      Text.Numeral l.rank text := by
  have fits : l.rank ≤ 0xFFFF_FFFF_FFFF_FFFF := by
    rcases l with _ | _ | _ | _ | _ | _ <;> decide
  have read : Text.readUnsigned 0xFFFF_FFFF_FFFF_FFFF text = .ok l.rank ↔ Text.Numeral l.rank text := by
    rw [Text.readUnsigned_eq_ok]
    exact and_iff_left fits
  rw [← read]
  cases Text.readUnsigned 0xFFFF_FFFF_FFFF_FFFF text with
  | error e => simp [Except.toOption]
  | ok n => simp [Except.toOption, ofRank?_eq_some]

theorem find?_word {l : Level} {text : List Char} :
    all.find? (·.word.toList = lowerAscii text) = some l ↔
      text.map Char.toLower = l.word.toList := by
  constructor
  · intro found
    have same := List.find?_some found
    exact (of_decide_eq_true same).symm
  · intro word
    rw [lowerAscii, word]
    rcases l with _ | _ | _ | _ | _ | _ <;> decide

/-- **Reading a level** succeeds exactly on its spellings. -/
theorem read?_eq_some {l : Level} {text : List Char} : read? text = some l ↔ l.Spelled text := by
  rw [read?, Spelled]
  cases ranked : (Text.readUnsigned 0xFFFF_FFFF_FFFF_FFFF text).toOption.bind ofRank? with
  | some level =>
    have numeral := ranked_eq_some.1 ranked
    constructor
    · intro same
      cases same
      exact .inr (.inl numeral)
    · rintro (⟨rfl, -⟩ | spelled | word)
      · cases ranked
      · exact ranked.symm.trans (ranked_eq_some.2 spelled)
      · exact absurd numeral (not_numeral_of_word word _)
  | none =>
    have noNumeral : ¬ Text.Numeral l.rank text := by
      rw [← ranked_eq_some, ranked]
      simp
    have nonempty : l.word.toList ≠ [] := by
      rcases l with _ | _ | _ | _ | _ | _ <;> decide
    cases text with
    | nil =>
      constructor
      · intro same
        cases same
        exact .inl ⟨rfl, rfl⟩
      · rintro (⟨-, rfl⟩ | spelled | word)
        · rfl
        · exact absurd spelled noNumeral
        · exact absurd word.symm nonempty
    | cons c rest =>
      refine Iff.trans find?_word ⟨fun word => .inr (.inr word), ?_⟩
      rintro (⟨nil, -⟩ | spelled | word)
      · cases nil
      · exact absurd spelled noNumeral
      · exact word

instance (l : Level) (text : List Char) : Decidable (l.Spelled text) :=
  decidable_of_iff (read? text = some l) read?_eq_some

end Log.Level

end Duet
