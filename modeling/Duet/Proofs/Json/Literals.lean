import Duet.Json.Value
import Duet.Proofs.Json.Grammar
import Mathlib.Tactic.SplitIfs

/-!
# Reading and writing string literals

The reader of a literal takes it escape by escape. Here it is shown to accept exactly the literals
that stand for a text, and to give that text: escapes of every kind, pairs of halves included,
and all other characters raw. The walk that only passes over a literal accepts more.

**What is written for a text is a literal that stands for it** (`spells_escape`), so it is read
back as the same text.
-/

namespace Duet.Json

/-- Two readings in a row succeed exactly if the first does, and then the second. -/
theorem bind_eq_ok {ε α β : Type} {x : Except ε α} {f : α → Except ε β} {b : β} :
    (x >>= f) = .ok b ↔ ∃ a, x = .ok a ∧ f a = .ok b := by
  cases x with
  | error e => simp [bind, Except.bind]
  | ok a => simp [bind, Except.bind]

private theorem ok_pair_inj {ε α β : Type} {a a' : α} {b b' : β}
    (same : (Except.ok (a, b) : Except ε (α × β)) = .ok (a', b')) : a = a' ∧ b = b' :=
  Prod.mk.inj (Except.ok.inj same)

/-! ## Escapes -/

theorem readCode_eq_ok {text rest : List Char} {n : Nat} :
    readCode text = .ok (n, rest) ↔ ∃ ds, text = ds ++ rest ∧ Code ds n := by
  constructor
  · intro read
    unfold readCode at read
    split at read
    · next a b c d more =>
      split at read
      · next w x y z ha hb hc hd =>
        cases read
        exact ⟨[a, b, c, d], rfl, .digits ha hb hc hd⟩
      · cases read
    · cases read
  · rintro ⟨_, rfl, @⟨a, b, c, d, w, x, y, z, ha, hb, hc, hd⟩⟩
    simp [readCode, ha, hb, hc, hd]

theorem readLowHalf_eq_ok {h : Nat} {text rest : List Char} {c : Char} :
    readLowHalf h text = .ok (c, rest) ↔
      ∃ es l, text = '\\' :: 'u' :: es ++ rest ∧ Code es l ∧ isLowHalf l = true ∧
        c = joinHalves h l := by
  constructor
  · intro read
    unfold readLowHalf at read
    split at read
    · cases read
    · split at read
      · next slash =>
        split at read
        · cases read
        · split at read
          · next letter =>
            obtain ⟨⟨l, after⟩, code, settle⟩ := bind_eq_ok.1 read
            obtain ⟨es, rfl, isCode⟩ := readCode_eq_ok.1 code
            dsimp only at settle
            split at settle
            · next isLow =>
              obtain ⟨joined, same⟩ := ok_pair_inj settle
              exact ⟨es, l, by rw [slash, letter, same, List.cons_append, List.cons_append],
                isCode, isLow, joined.symm⟩
            · cases settle
          · cases read
      · cases read
  · rintro ⟨es, l, rfl, code, isLow, joined⟩
    have read : readCode (es ++ rest) = .ok (l, rest) := readCode_eq_ok.2 ⟨es, rfl, code⟩
    rw [List.cons_append, List.cons_append, readLowHalf]
    simp only [↓reduceIte, read]
    simp only [bind, Except.bind, isLow, ↓reduceIte, joined]

theorem simpleEscape?_u : simpleEscape? 'u' = none := by decide

/-- **Reading what follows a backslash** takes an escape and gives its character. -/
theorem readEscape_eq_ok {text rest : List Char} {c : Char} :
    readEscape text = .ok (c, rest) ↔ ∃ e, text = e ++ rest ∧ Escape e c := by
  constructor
  · intro read
    unfold readEscape at read
    split at read
    · cases read
    · next d more =>
      split at read
      · next plain known =>
        cases read
        exact ⟨[d], rfl, .simple known⟩
      · split at read
        · next letter =>
          obtain ⟨⟨n, after⟩, code, settle⟩ := bind_eq_ok.1 read
          obtain ⟨ds, rfl, isCode⟩ := readCode_eq_ok.1 code
          dsimp only at settle
          split at settle
          · cases settle
          · next notLow =>
            split at settle
            · next isHigh =>
              obtain ⟨es, l, rfl, lowCode, isLow, joined⟩ := readLowHalf_eq_ok.1 settle
              rw [joined]
              exact ⟨'u' :: ds ++ '\\' :: 'u' :: es, by simp [letter],
                .pair isCode isHigh lowCode isLow⟩
            · next notHigh =>
              obtain ⟨rfl, rfl⟩ := ok_pair_inj settle
              exact ⟨'u' :: ds, by simp [letter],
                .code isCode (by simpa using notHigh) (by simpa using notLow)⟩
        · cases read
  · rintro ⟨e, rfl, escape⟩
    cases escape with
    | simple known => simp [readEscape, known]
    | @code ds n code notHigh notLow =>
      have read : readCode (ds ++ rest) = .ok (n, rest) := readCode_eq_ok.2 ⟨ds, rfl, code⟩
      rw [List.cons_append, readEscape]
      simp only [simpleEscape?_u, ↓reduceIte, read]
      simp [bind, Except.bind, notHigh, notLow]
    | @pair ds es h l high isHigh low isLow =>
      -- The reader refuses a low half before it looks for a high one.
      have notLow : isLowHalf h = false := by
        simp only [isHighHalf, isLowHalf, Bool.and_eq_true, decide_eq_true_eq] at isHigh ⊢
        simp only [Bool.and_eq_false_iff, decide_eq_false_iff_not]
        omega
      have read : readCode (ds ++ ('\\' :: 'u' :: es ++ rest)) =
          .ok (h, '\\' :: 'u' :: es ++ rest) := readCode_eq_ok.2 ⟨ds, rfl, high⟩
      have second : readLowHalf h ('\\' :: 'u' :: es ++ rest) = .ok (joinHalves h l, rest) :=
        readLowHalf_eq_ok.2 ⟨es, l, rfl, low, isLow, rfl⟩
      rw [List.append_assoc, List.cons_append, readEscape]
      simp only [simpleEscape?_u, ↓reduceIte, read]
      simp only [bind, Except.bind, notLow, isHigh, ↓reduceIte, Bool.false_eq_true]
      exact second

/-! ## Literals -/

theorem readStringFrom_eq_ok {read text cs rest : List Char} :
    readStringFrom read text = .ok (cs, rest) ↔
      ∃ w more, text = w ++ '"' :: rest ∧ Spells w more ∧ cs = read.reverse ++ more := by
  constructor
  · intro taken
    fun_induction readStringFrom read text with
    | case1 => cases taken
    | case2 read more =>
      obtain ⟨rfl, rfl⟩ := ok_pair_inj taken
      exact ⟨[], [], rfl, .nil, by simp⟩
    | case3 read more e after escaped shorter notQuote ih =>
      obtain ⟨w, cs', rfl, spells, rfl⟩ := ih taken
      obtain ⟨ds, rfl, escape⟩ := readEscape_eq_ok.1 escaped
      exact ⟨'\\' :: ds ++ w, e :: cs', by simp, .escape escape spells, by simp⟩
    | case4 => cases taken
    | case5 => cases taken
    | case6 read d more notQuote notSlash notControl ih =>
      obtain ⟨w, cs', rfl, spells, rfl⟩ := ih taken
      exact ⟨d :: w, d :: cs', rfl, .plain ⟨notQuote, notSlash, notControl⟩ spells, by simp⟩
  · rintro ⟨w, more, rfl, spells, rfl⟩
    induction spells generalizing read with
    | nil =>
      rw [List.nil_append, readStringFrom]
      simp
    | @plain c w cs plain _ ih =>
      rw [List.cons_append, readStringFrom]
      simp only [plain.1, plain.2.1, plain.2.2, ↓reduceIte]
      rw [ih]
      simp
    | @escape e w cs c escape _ ih =>
      have escaped : readEscape (e ++ (w ++ '"' :: rest)) = .ok (c, w ++ '"' :: rest) :=
        readEscape_eq_ok.2 ⟨e, rfl, escape⟩
      rw [List.append_assoc, List.cons_append, readStringFrom]
      simp only [show ('\\' : Char) ≠ '"' by decide, ↓reduceIte]
      split
      · next d after taken =>
        rw [escaped] at taken
        obtain ⟨rfl, rfl⟩ := ok_pair_inj taken
        rw [ih]
        simp
      · next f failed =>
        rw [escaped] at failed
        cases failed

/-- **A literal is read exactly if it stands for a text**, which is then what was read. -/
theorem readString_eq_ok {text cs rest : List Char} :
    readString text = .ok (cs, rest) ↔ ∃ w, text = w ++ '"' :: rest ∧ Spells w cs := by
  rw [readString, readStringFrom_eq_ok]
  simp

theorem readString_append {w cs : List Char} (spells : Spells w cs) (rest : List Char) :
    readString (w ++ '"' :: rest) = .ok (cs, rest) :=
  readString_eq_ok.2 ⟨w, rfl, spells⟩

/-! ## Passing over literals -/

theorem skipEscape_simple {e c : Char} (known : simpleEscape? e = some c) (rest : List Char) :
    skipEscape (e :: rest) = .ok rest := by
  simp [skipEscape, known]

theorem skipEscape_code {ds : List Char} {n : Nat} (code : Code ds n) (rest : List Char) :
    skipEscape ('u' :: ds ++ rest) = .ok rest := by
  have read : readCode (ds ++ rest) = .ok (n, rest) := readCode_eq_ok.2 ⟨ds, rfl, code⟩
  rw [List.cons_append, skipEscape]
  simp only [simpleEscape?_u, Option.isSome_none, Bool.false_eq_true, ↓reduceIte, read]
  rfl

private theorem skipString_slash {text rest : List Char} (taken : skipEscape text = .ok rest) :
    skipString ('\\' :: text) = skipString rest := by
  rw [skipString]
  simp only [show ('\\' : Char) ≠ '"' by decide, ↓reduceIte]
  split
  · next after passed =>
    rw [taken] at passed
    rw [Except.ok.inj passed]
  · next f failed =>
    rw [taken] at failed
    cases failed

/-- Every literal is passed over. -/
theorem skipString_append {w : List Char} (literal : Literal w) (rest : List Char) :
    skipString (w ++ '"' :: rest) = .ok rest := by
  induction literal with
  | nil =>
    rw [List.nil_append, skipString]
    simp
  | plain plain _ ih =>
    rw [List.cons_append, skipString]
    simp only [plain.1, plain.2.1, plain.2.2, ↓reduceIte]
    exact ih
  | simple known _ ih =>
    rw [List.cons_append, List.cons_append, skipString_slash (skipEscape_simple known _)]
    exact ih
  | @code ds w n code _ ih =>
    have passed : skipEscape ('u' :: ds ++ (w ++ '"' :: rest)) = .ok (w ++ '"' :: rest) :=
      skipEscape_code code _
    rw [List.append_assoc, List.cons_append, skipString_slash passed]
    exact ih

/-! ## Writing literals -/

theorem hexValue?_hexChar {d : Nat} (small : d < 16) : hexValue? (Text.hexChar d) = some d := by
  revert small
  revert d
  decide

/-- What is written for a control character is its code. -/
theorem escape_control {c : Char} (control : c < ' ') :
    Escape ['u', '0', '0', Text.hexChar (c.toNat / 16), Text.hexChar (c.toNat % 16)] c := by
  have small : c.toNat < 32 := control
  have code : Code ['0', '0', Text.hexChar (c.toNat / 16), Text.hexChar (c.toNat % 16)]
      (((0 * 16 + 0) * 16 + c.toNat / 16) * 16 + c.toNat % 16) :=
    .digits (by decide) (by decide) (hexValue?_hexChar (by omega)) (hexValue?_hexChar (by omega))
  have value : ((0 * 16 + 0) * 16 + c.toNat / 16) * 16 + c.toNat % 16 = c.toNat := by omega
  rw [value] at code
  have escape : Escape _ (Char.ofNat c.toNat) :=
    .code code (by simp [isHighHalf]; omega) (by simp [isLowHalf]; omega)
  rwa [Char.ofNat_toNat] at escape

/-- What is written for one character, with a literal after it, is a literal. -/
theorem spells_escapeChar (c : Char) {w cs : List Char} (rest : Spells w cs) :
    Spells (escapeChar c ++ w) (c :: cs) := by
  have byLetter {e : Char} (known : simpleEscape? e = some c) : Spells (['\\', e] ++ w) (c :: cs) :=
    .escape (.simple known) rest
  unfold escapeChar
  split_ifs with isQuote isSlash isBack isTab isFeed isForm isReturn control
  · exact byLetter (by rw [isQuote]; rfl)
  · exact byLetter (by rw [isSlash]; rfl)
  · exact byLetter (by rw [isBack]; rfl)
  · exact byLetter (by rw [isTab]; rfl)
  · exact byLetter (by rw [isFeed]; rfl)
  · exact byLetter (by rw [isForm]; rfl)
  · exact byLetter (by rw [isReturn]; rfl)
  · exact .escape (escape_control control) rest
  · exact .plain ⟨isQuote, isSlash, control⟩ rest

/-- **What is written for a text is a literal that stands for it.** -/
theorem spells_escape (cs : List Char) : Spells (escape cs) cs := by
  induction cs with
  | nil => exact .nil
  | cons c cs ih =>
    rw [escape, List.flatMap_cons]
    exact spells_escapeChar c ih

end Duet.Json
