import Duet.Proofs.Json.Literals

/-!
# What a quoted text shows

A text in quotes is made to be looked at: whoever reads it should see where it ends, and which text
it is. Escapes have lengths of their own, and a text may itself look like escapes, so both are to be
proved.

**The quotes close in one place only** (`Sealed.append_inj`), since between them every quote has a
backslash of its own; **no two texts are shown alike** (`escape_injective`), since each character can
be told from the front of what is shown, with the rest (`shown?_escapeChar`); and **nothing is shown
that would have to be escaped** (`isCoded_of_mem_quote`), control characters least of all.

The first two do not ask which characters are shown by their codes. Any table would do.
-/

namespace Duet.Text

/-! ## Codes -/

/-- A character of ASCII that is no control. -/
def IsPrinting (c : Char) : Prop :=
  0x20 ≤ c.toNat ∧ c.toNat < 0x7F

instance (c : Char) : Decidable (IsPrinting c) :=
  inferInstanceAs (Decidable (_ ∧ _))

/-- The number that hexadecimal digits stand for. -/
def hexNumber (digits : List Char) : Nat :=
  digits.foldl (fun n d => n * 16 + (Json.hexValue? d).getD 0) 0

theorem hexNumber_append (digits : List Char) (d : Char) :
    hexNumber (digits ++ [d]) = hexNumber digits * 16 + (Json.hexValue? d).getD 0 := by
  simp [hexNumber]

/-- A code is read back from its digits. -/
theorem hexNumber_hex (n : Nat) : hexNumber (hex n) = n := by
  induction n using hex.induct with
  | case1 n small =>
    rw [hex, if_pos small, ← List.nil_append [hexChar n], hexNumber_append,
      Json.hexValue?_hexChar small]
    simp [hexNumber]
  | case2 n large ih =>
    rw [hex, if_neg large, hexNumber_append, ih, Json.hexValue?_hexChar (Nat.mod_lt n (by decide))]
    simp only [Option.getD_some]
    omega

theorem mem_hex {n : Nat} {d : Char} (isIn : d ∈ hex n) : ∃ k < 16, d = hexChar k := by
  induction n using hex.induct with
  | case1 n small =>
    rw [hex, if_pos small] at isIn
    exact ⟨n, small, List.mem_singleton.1 isIn⟩
  | case2 n large ih =>
    rw [hex, if_neg large] at isIn
    rcases List.mem_append.1 isIn with earlier | last
    · exact ih earlier
    · exact ⟨n % 16, Nat.mod_lt n (by decide), List.mem_singleton.1 last⟩

/-- The digits of a code are plain, and none of them closes it. -/
theorem hexChar_plain : ∀ k < 16,
    IsPrinting (hexChar k) ∧ hexChar k ≠ '"' ∧ hexChar k ≠ '\\' ∧ hexChar k ≠ '\x7d' := by
  decide

/-! ## Where the quotes close -/

/-- **What may stand between quotes**: characters other than a quote or a backslash, and any
character after a backslash of its own. -/
inductive Sealed : List Char → Prop where
  | nil : Sealed []
  | plain {c : Char} {w : List Char} (notQuote : c ≠ '"') (notSlash : c ≠ '\\') (rest : Sealed w) :
    Sealed (c :: w)
  | escaped (c : Char) {w : List Char} (rest : Sealed w) : Sealed ('\\' :: c :: w)

/-- Plain characters in front change nothing. -/
theorem Sealed.append_plain {ds w : List Char} (plain : ∀ d ∈ ds, d ≠ '"' ∧ d ≠ '\\')
    (rest : Sealed w) : Sealed (ds ++ w) := by
  induction ds with
  | nil => exact rest
  | cons d ds ih =>
    obtain ⟨⟨notQuote, notSlash⟩, more⟩ := List.forall_mem_cons.1 plain
    exact .plain notQuote notSlash (ih more)

theorem sealed_escapeChar (c : Char) {w : List Char} (rest : Sealed w) :
    Sealed (escapeChar c ++ w) := by
  unfold escapeChar
  split_ifs with isNul isTab isReturn isFeed isQuote isSlash isCoded
  · exact .escaped '0' rest
  · exact .escaped 't' rest
  · exact .escaped 'r' rest
  · exact .escaped 'n' rest
  · exact .escaped '"' rest
  · exact .escaped '\\' rest
  · have digits (d : Char) (isIn : d ∈ hex c.toNat) : d ≠ '"' ∧ d ≠ '\\' := by
      obtain ⟨k, small, rfl⟩ := mem_hex isIn
      obtain ⟨-, notQuote, notSlash, -⟩ := hexChar_plain k small
      exact ⟨notQuote, notSlash⟩
    have closed : Sealed ('\x7d' :: w) := .plain (by decide) (by decide) rest
    have coded := Sealed.escaped 'u' (.plain (c := '\x7b') (by decide) (by decide)
      (closed.append_plain digits))
    simpa using coded
  · exact .plain isQuote isSlash rest

/-- An escaped text may stand between quotes. -/
theorem sealed_escape (cs : List Char) : Sealed (escape cs) := by
  induction cs with
  | nil => exact .nil
  | cons c cs ih =>
    rw [escape, List.flatMap_cons]
    exact sealed_escapeChar c ih

/-- **The quotes close in one place only**, whatever follows them. -/
theorem Sealed.append_inj {w w' x x' : List Char} (first : Sealed w) (second : Sealed w')
    (same : w ++ '"' :: x = w' ++ '"' :: x') : w = w' ∧ x = x' := by
  induction first generalizing w' with
  | nil =>
    cases second with
    | nil => exact ⟨rfl, (List.cons.inj same).2⟩
    | plain notQuote _ _ => exact absurd (List.cons.inj same).1.symm notQuote
    | escaped c _ => exact absurd (List.cons.inj same).1 (by decide)
  | plain notQuote notSlash _ ih =>
    cases second with
    | nil => exact absurd (List.cons.inj same).1 notQuote
    | plain _ _ rest =>
      obtain ⟨rfl, tails⟩ := List.cons.inj same
      obtain ⟨rfl, follows⟩ := ih rest tails
      exact ⟨rfl, follows⟩
    | escaped c _ => exact absurd (List.cons.inj same).1 notSlash
  | escaped c _ ih =>
    cases second with
    | nil => exact absurd (List.cons.inj same).1 (by decide)
    | plain _ notSlash _ => exact absurd (List.cons.inj same).1.symm notSlash
    | escaped d rest =>
      obtain ⟨rfl, tails⟩ := List.cons.inj (List.cons.inj same).2
      obtain ⟨rfl, follows⟩ := ih rest tails
      exact ⟨rfl, follows⟩

/-! ## Which text is shown -/

/-- What an escape stands for, read from behind its backslash, with the rest. -/
def escaped? : List Char → Option (Char × List Char)
  | [] => none
  | e :: rest =>
    if e = '0' then some ('\x00', rest)
    else if e = 't' then some ('\t', rest)
    else if e = 'r' then some ('\r', rest)
    else if e = 'n' then some ('\n', rest)
    else if e = 'u' then
      let isDigit d := d ≠ '\x7d'
      some (Char.ofNat (hexNumber (rest.tail.takeWhile isDigit)), (rest.tail.dropWhile isDigit).tail)
    else some (e, rest)

/-- The character that is shown at the front of a text, with the rest. -/
def shown? : List Char → Option (Char × List Char)
  | [] => none
  | c :: rest => if c = '\\' then escaped? rest else some (c, rest)

theorem escaped?_code (c : Char) (w : List Char) :
    escaped? ('u' :: '\x7b' :: (hex c.toNat ++ '\x7d' :: w)) = some (c, w) := by
  have inside (d : Char) (isIn : d ∈ hex c.toNat) : decide (d ≠ '\x7d') = true := by
    obtain ⟨k, small, rfl⟩ := mem_hex isIn
    exact decide_eq_true (hexChar_plain k small).2.2.2
  simp only [escaped?, List.tail_cons, List.takeWhile_append_of_pos inside,
    List.dropWhile_append_of_pos inside]
  simp [hexNumber_hex]

/-- **A character is told from its escaped form**, whatever follows. -/
theorem shown?_escapeChar (c : Char) (w : List Char) : shown? (escapeChar c ++ w) = some (c, w) := by
  unfold escapeChar
  split_ifs with isNul isTab isReturn isFeed isQuote isSlash isCoded
  · rw [isNul]; rfl
  · rw [isTab]; rfl
  · rw [isReturn]; rfl
  · rw [isFeed]; rfl
  · rw [isQuote]; rfl
  · rw [isSlash]; rfl
  · simpa [shown?] using escaped?_code c w
  · simp [shown?, isSlash]

theorem shown?_escape (c : Char) (cs : List Char) :
    shown? (escape (c :: cs)) = some (c, escape cs) := by
  rw [escape, List.flatMap_cons]
  exact shown?_escapeChar c (escape cs)

/-- **No two texts are shown alike.** -/
theorem escape_injective {cs ds : List Char} (same : escape cs = escape ds) : cs = ds := by
  induction cs generalizing ds with
  | nil =>
    cases ds with
    | nil => rfl
    | cons d ds =>
      have shown := shown?_escape d ds
      rw [← same] at shown
      cases shown
  | cons c cs ih =>
    have shown := shown?_escape c cs
    cases ds with
    | nil =>
      rw [same] at shown
      cases shown
    | cons d ds =>
      rw [same, shown?_escape] at shown
      obtain ⟨rfl, rests⟩ := Prod.mk.inj (Option.some.inj shown)
      rw [ih rests.symm]

/-- A quoted text is told from what follows it, and is the text that was quoted. -/
theorem quote_append_inj {cs ds x y : List Char} (same : quote cs ++ x = quote ds ++ y) :
    cs = ds ∧ x = y := by
  have inside : escape cs ++ '"' :: x = escape ds ++ '"' :: y := by simpa [quote] using same
  obtain ⟨texts, follows⟩ := (sealed_escape cs).append_inj (sealed_escape ds) inside
  exact ⟨escape_injective texts, follows⟩

/-! ## What is never shown -/

/-- The control characters: the two rows at the start of ASCII and of its second half, and the one
between them. -/
def IsControl (c : Char) : Prop :=
  c.toNat < 0x20 ∨ 0x7F ≤ c.toNat ∧ c.toNat ≤ 0x9F

instance (c : Char) : Decidable (IsControl c) :=
  inferInstanceAs (Decidable (_ ∨ _))

theorem inRanges_eq_false {table : List (Nat × Nat)} {n : Nat}
    (outside : ∀ range ∈ table, range.2 < n ∨ n < range.1) : inRanges table n = false := by
  refine List.any_eq_false.2 fun range isIn => ?_
  have apart := outside range isIn
  simp only [Bool.and_eq_true, decide_eq_true_eq]
  omega

/-- Both tables leave out the plain characters of ASCII. -/
theorem isCoded_of_isPrinting {c : Char} (printing : IsPrinting c) : isCoded c = false := by
  have unprintable : ∀ range ∈ unprintableRanges, range.2 < 0x20 ∨ 0x7F ≤ range.1 := by
    decide +kernel
  have extending : ∀ range ∈ graphemeExtendRanges, range.2 < 0x20 ∨ 0x7F ≤ range.1 := by
    decide +kernel
  obtain ⟨low, high⟩ := printing
  have shaped : isUnprintable c = false := inRanges_eq_false fun range isIn => by
    have apart := unprintable range isIn
    omega
  have alone : isGraphemeExtend c = false := inRanges_eq_false fun range isIn => by
    have apart := extending range isIn
    omega
  rw [isCoded, shaped, alone, Bool.or_false]

/-- The table of unprintable characters has all controls. -/
theorem isCoded_of_isControl {c : Char} (control : IsControl c) : isCoded c = true := by
  have unprintable : isUnprintable c = true := by
    rcases control with low | ⟨ge, le⟩
    · exact isUnprintable_of_lt_space low
    · have table : unprintableRanges = (0x0, 0x1F) :: (0x7F, 0xA0) :: unprintableRanges.tail.tail :=
        rfl
      have second : (0x7F ≤ c.toNat && c.toNat ≤ 0xA0) = true := by
        simp only [Bool.and_eq_true, decide_eq_true_eq]
        omega
      rw [isUnprintable, table, inRanges_cons, inRanges_cons, second, Bool.true_or, Bool.or_true]
  rw [isCoded, unprintable, Bool.true_or]

theorem mem_escapeChar {c d : Char} (isIn : d ∈ escapeChar c) :
    IsPrinting d ∨ d = c ∧ isCoded c = false := by
  have pair {e : Char} (printing : IsPrinting e) (isIn : d ∈ ['\\', e]) : IsPrinting d := by
    rcases List.mem_cons.1 isIn with rfl | isLast
    · decide
    · rwa [List.mem_singleton.1 isLast]
  unfold escapeChar at isIn
  split_ifs at isIn with isNul isTab isReturn isFeed isQuote isSlash coded
  · exact .inl (pair (by decide) isIn)
  · exact .inl (pair (by decide) isIn)
  · exact .inl (pair (by decide) isIn)
  · exact .inl (pair (by decide) isIn)
  · exact .inl (pair (by decide) isIn)
  · exact .inl (pair (by decide) isIn)
  · left
    simp only [List.cons_append, List.mem_cons, List.mem_append, List.not_mem_nil, or_false] at isIn
    rcases isIn with rfl | rfl | rfl | isDigit | rfl
    · decide
    · decide
    · decide
    · obtain ⟨k, small, rfl⟩ := mem_hex isDigit
      exact (hexChar_plain k small).1
    · decide
  · exact .inr ⟨List.mem_singleton.1 isIn, by simpa using coded⟩

/-- **Nothing is shown that would have to be escaped.** -/
theorem isCoded_of_mem_quote {cs : List Char} {d : Char} (isIn : d ∈ quote cs) :
    isCoded d = false := by
  have mark : IsPrinting '"' := by decide
  simp only [quote, List.cons_append, List.mem_cons, List.mem_append, List.not_mem_nil,
    or_false] at isIn
  rcases isIn with rfl | inside | rfl
  · exact isCoded_of_isPrinting mark
  · obtain ⟨c, -, isShown⟩ := List.mem_flatMap.1 inside
    rcases mem_escapeChar isShown with printing | ⟨rfl, uncoded⟩
    · exact isCoded_of_isPrinting printing
    · exact uncoded
  · exact isCoded_of_isPrinting mark

theorem not_isControl {c : Char} (uncoded : isCoded c = false) : ¬ IsControl c := by
  intro control
  rw [isCoded_of_isControl control] at uncoded
  cases uncoded

end Duet.Text
