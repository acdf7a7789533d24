import Duet.Proofs.Summary.Parts

/-!
# Which texts are statuses

A status has two written forms, and each leaves some freedom: blanks stand around every piece, and
a letter of the name is written as itself or as an escape. `Status.Document` has one constructor for
each form and lists its pieces, so that it can be read without knowing how texts are read.

**A text is read as a status exactly if it is a document of it** (`Status.parse_eq_ok`), and what
comes close is refused: numbers, literals that stand for anything but a name, objects with no member
or with more than one, and a status with something after it (`Status.Astray`).

What this does not establish: with which failure a text is refused, and where that is placed.
-/

namespace Duet.Status

open Json (Blanks EndsBefore Gap IsNumber IsValue Member ObjectText Spells TextMeans)

/-- **The documents of a status**: a literal that stands for its name, or an object with one member,
whose key is such a literal and whose value is `null`. -/
inductive Document (s : Status) : List Char → Prop where
  | name (before after : Gap) {k : List Char} (spells : Spells k s.name.toList) :
    Document s (before.1 ++ ('"' :: k ++ ['"']) ++ after.1)
  | object (before a b c d after : Gap) {k : List Char} (spells : Spells k s.name.toList) :
    Document s (before.1 ++ ('\x7b' :: a.1 ++ '"' :: k ++ '"' :: b.1 ++ ':' :: c.1 ++
      "null".toList ++ d.1 ++ ['\x7d']) ++ after.1)

/-- A document is a value of the status with blanks around it. -/
theorem document_iff {s : Status} {text : List Char} :
    s.Document text ↔ ∃ before after : Gap, ∃ w, text = before.1 ++ w ++ after.1 ∧ Means w s := by
  constructor
  · intro document
    cases document with
    | name before after spells => exact ⟨before, after, _, rfl, .inl ⟨_, rfl, spells⟩⟩
    | @object before a b c d after k spells =>
      let m : Member := ⟨s.name.toList, "null".toList, k, spells, .null, ⟨[], .nil⟩, b, c, d⟩
      refine ⟨before, after, (ObjectText.mk a [m]).text, ?_, .inr ⟨a, m, rfl, rfl, rfl⟩⟩
      simp [ObjectText.text, Json.insideText, Json.tailText, Member.text, m]
  · rintro ⟨before, after, w, rfl, ⟨k, rfl, spells⟩ | ⟨b, m, rfl, key, value⟩⟩
    · exact .name before after spells
    · have document := Document.object (s := s) before ⟨_, b.2.append m.before.2⟩ m.colon m.lead
        m.after after (key ▸ m.spells)
      simpa [ObjectText.text, Json.insideText, Json.tailText, Member.text, value] using document

theorem parse_eq_ok {s : Status} {text : List Char} : parse text = .ok s ↔ s.Document text := by
  rw [parse, recognizes.readWhole_iff, document_iff]
  constructor
  · rintro ⟨b, w, c, rfl, before, after, means⟩
    exact ⟨⟨b, before⟩, ⟨c, after⟩, w, rfl, means⟩
  · rintro ⟨before, after, w, rfl, means⟩
    exact ⟨before.1, w, after.1, rfl, before.2, after.2, means⟩

theorem exists_error_iff {text : List Char} :
    (∃ failure, parse text = .error failure) ↔ ∀ s : Status, ¬ s.Document text := by
  simp only [← parse_eq_ok]
  cases parse text <;> simp

/-! ## Values that are no statuses -/

/-- What a value with blanks around it is read as depends on the value alone. -/
theorem document_around {s : Status} (before after : Gap) {v : List Char} (value : IsValue v) :
    s.Document (before.1 ++ v ++ after.1) ↔ Means v s := by
  constructor
  · intro document
    obtain ⟨before', after', w, split, means⟩ := document_iff.1 document
    have detached (gap : Gap) : Json.Detached gap.1 := by
      simpa using Json.Detached.blanks gap.2 .nil
    obtain ⟨rfl, -⟩ := Json.IsValue.unique before.2 value ((detached after).endsBefore v)
      before'.2 (recognizes.isValue means) ((detached after').endsBefore w) split
    exact means
  · intro means
    exact document_iff.2 ⟨before, after, v, rfl, means⟩

/-- A value of a status begins with a quote or with the bracket of an object. -/
theorem Means.head {w : List Char} {s : Status} (means : Means w s) :
    w.head? = some '"' ∨ w.head? = some '\x7b' := by
  rcases means with ⟨k, rfl, -⟩ | ⟨b, m, rfl, -, -⟩
  · exact .inl rfl
  · exact .inr rfl

theorem not_means_number {w : List Char} (number : IsNumber w) (s : Status) : ¬ Means w s := by
  intro means
  obtain ⟨c, more, rfl, starts⟩ := number.head
  have quote : c ≠ '"' := by
    rintro rfl
    exact absurd starts (by decide)
  have bracket : c ≠ '\x7b' := by
    rintro rfl
    exact absurd starts (by decide)
  rcases means.head with head | head
  · exact quote (Option.some.inj head)
  · exact bracket (Option.some.inj head)

/-- A literal is read as the status whose name it stands for. -/
theorem means_literal {k cs : List Char} (spells : Spells k cs) (s : Status) :
    Means ('"' :: k ++ ['"']) s ↔ cs = s.name.toList := by
  constructor
  · rintro (⟨k', same, spells'⟩ | ⟨b, m, same, -, -⟩)
    · have inside : k = k' := by simpa using same
      have read := Json.readString_append spells []
      rw [inside, Json.readString_append spells' []] at read
      cases read
      rfl
    · cases (List.cons.inj same).1
  · rintro rfl
    exact .inl ⟨k, rfl, spells⟩

/-- An object is read no further than its first member: it has to end there. -/
theorem readObject_member {b : Gap} {m : Member} {d : Char} {more rest : List Char} {s : Status}
    (solid : Json.isBlank d = false) (detached : Json.Detached (d :: more))
    (taken : readObject (b.1 ++ m.text ++ d :: more) = .ok (s, rest)) :
    m.key = s.name.toList ∧ m.value = "null".toList ∧ d = '\x7d' := by
  have keyed := Json.readKey_first m.spells ⟨_, b.2.append m.before.2⟩ (m.afterKey (d :: more))
  have colon : Json.readColon (m.afterKey (d :: more)) =
      .ok (m.lead.1 ++ m.value ++ (m.after.1 ++ d :: more)) := by
    rw [List.append_assoc]
    exact Json.readColon_append m.colon _
  rw [List.append_assoc, m.text_append, ← List.append_assoc, readObject, keyed] at taken
  obtain ⟨⟨status, after⟩, known, afterName⟩ :=
    Json.bind_eq_ok.1 (show (named m.key (m.afterKey (d :: more)) >>= _) = _ from taken)
  obtain ⟨key, rfl⟩ := named_eq_ok.1 known
  obtain ⟨_, isAfter, afterColon⟩ := Json.bind_eq_ok.1 afterName
  cases colon.symm.trans isAfter
  obtain ⟨⟨_, after⟩, null, afterNull⟩ := Json.bind_eq_ok.1 afterColon
  obtain ⟨value, rfl⟩ := (Json.readNull_recognizes.read_iff m.lead.2 m.isValue
    ((Json.Detached.blanks m.after.2 detached).endsBefore m.value)).1 null
  dsimp only at afterNull
  rw [m.after.2.skipBlank_cons solid] at afterNull
  dsimp only at afterNull
  split at afterNull
  · next isEnd =>
    cases afterNull
    exact ⟨key, value, isEnd⟩
  · cases afterNull

/-- **An object is read as a status exactly if it has one member**, with the status's name for its
key and `null` for its value. -/
theorem means_object (o : ObjectText) (s : Status) :
    Means o.text s ↔
      ∃ m, o.members = [m] ∧ m.key = s.name.toList ∧ m.value = "null".toList := by
  constructor
  · rintro (⟨k, same, -⟩ | ⟨b, m, same, key, value⟩)
    · cases (List.cons.inj same).1
    · have taken := readObject_append key value b []
      have inside : o.blank.1 ++ Json.insideText o.members ++ ['\x7d'] =
          b.1 ++ m.text ++ ['\x7d'] := by
        simpa [ObjectText.text, Json.insideText, Json.tailText] using same
      rw [← inside] at taken
      cases members : o.members with
      | nil =>
        rw [members, Json.insideText, List.append_nil, readObject,
          Json.readKey_close true o.blank []] at taken
        cases taken
      | cons first others =>
        cases others with
        | nil =>
          rw [members, Json.insideText, Json.tailText, List.flatMap_nil, List.append_nil] at taken
          obtain ⟨key', value', -⟩ := readObject_member (by decide) (.cons [] (by decide)) taken
          exact ⟨first, rfl, key', value'⟩
        | cons second others =>
          -- Where the object would have to end there is a comma.
          rw [members, Json.insideText, Json.tailText_cons, ← List.append_assoc,
            List.append_assoc] at taken
          obtain ⟨-, -, isEnd⟩ := readObject_member (by decide) (Json.detached_comma _) taken
          exact absurd isEnd (by decide)
  · rintro ⟨m, members, key, value⟩
    refine .inr ⟨o.blank, m, ?_, key, value⟩
    rw [← members]

/-! ## Texts that come close -/

/-- Texts that come close to a status and are none. -/
inductive Astray : List Char → Prop where
  | number (before after : Gap) {w : List Char} (number : IsNumber w) :
    Astray (before.1 ++ w ++ after.1)
  | literal (before after : Gap) {k cs : List Char} (spells : Spells k cs)
    (unknown : ∀ s : Status, cs ≠ s.name.toList) :
    Astray (before.1 ++ ('"' :: k ++ ['"']) ++ after.1)
  | object (before after : Gap) (o : ObjectText) (count : o.members.length ≠ 1) :
    Astray (before.1 ++ o.text ++ after.1)
  | trailing {s : Status} {text rest : List Char} (document : s.Document text)
    (solid : ¬ Blanks rest) : Astray (text ++ rest)

/-- Nothing but blanks can follow a document in a document. -/
theorem Document.blanks_of_append {s t : Status} {text rest : List Char}
    (first : s.Document text) (whole : t.Document (text ++ rest)) : Blanks rest := by
  obtain ⟨before, after, w, rfl, means⟩ := document_iff.1 first
  obtain ⟨before', after', w', split, means'⟩ := document_iff.1 whole
  have ends {w : List Char} {s : Status} (means : Means w s) (rest : List Char) :
      EndsBefore w rest :=
    fun number => absurd means (not_means_number number s)
  rw [List.append_assoc] at split
  obtain ⟨-, same⟩ := Json.IsValue.unique before.2 (recognizes.isValue means) (ends means _)
    before'.2 (recognizes.isValue means') (ends means' _) split
  intro c isIn
  exact after'.2 c (same ▸ List.mem_append_right _ isIn)

theorem Astray.not_document {text : List Char} (astray : Astray text) (s : Status) :
    ¬ s.Document text := by
  cases astray with
  | number before after number =>
    rw [document_around before after (.number number)]
    exact not_means_number number s
  | literal before after spells unknown =>
    rw [document_around before after (.string spells.literal), means_literal spells]
    exact unknown s
  | object before after o count =>
    rw [document_around before after o.isValue, means_object]
    rintro ⟨m, members, -⟩
    exact count (by rw [members]; rfl)
  | trailing document solid =>
    intro whole
    exact solid (document.blanks_of_append whole)

/-- **Which texts are read as statuses.** Each is a document of the status it is read as, every
other text is refused, and so is what only comes close. -/
theorem parse_exactly_documents (text : List Char) :
    (∀ s, parse text = .ok s ↔ s.Document text) ∧
    ((∃ failure, parse text = .error failure) ↔ ∀ s : Status, ¬ s.Document text) ∧
    (Astray text → ∃ failure, parse text = .error failure) := by
  refine ⟨fun s => parse_eq_ok, exists_error_iff, fun astray => ?_⟩
  exact exists_error_iff.2 astray.not_document

private def noGap : Gap := ⟨[], .nil⟩

private theorem blanks_space : Blanks [' '] := by
  decide

private def space : Gap := ⟨[' '], blanks_space⟩

private theorem spells_capital :
    Spells ('\\' :: ['u', '0', '0', '5', '3'] ++ Json.escape "uccess".toList)
      (name .success).toList :=
  .escape (.code (.digits (w := 0) (x := 0) (y := 5) (z := 3) (by decide) (by decide) (by decide)
    (by decide)) (by decide) (by decide)) (Json.spells_escape "uccess".toList)

private theorem astray_literal (word : String)
    (unknown : ∀ s : Status, word.toList ≠ s.name.toList) :
    Astray ([] ++ ('"' :: Json.escape word.toList ++ ['"']) ++ []) :=
  .literal noGap noGap (Json.spells_escape word.toList) unknown

/-- A member for a status. -/
private def member (s : Status) : Member :=
  ⟨s.name.toList, "null".toList, _, Json.spells_escape s.name.toList, .null, noGap, noGap, noGap,
    noGap⟩

/-- The object form with an escape, and five texts that come close: a code, a name in small letters,
the phrase for people, two members, and a name with a second one after it. -/
theorem parse_exactly_documents_close :
    parse " \x7b\"\\u0053uccess\" :null\x7d".toList = .ok .success ∧
    (∃ failure, parse "1".toList = .error failure) ∧
    (∃ failure, parse "\"success\"".toList = .error failure) ∧
    (∃ failure, parse "\"spawn failed (1)\"".toList = .error failure) ∧
    (∃ failure, parse "\x7b\"Success\":null,\"Success\":null\x7d".toList = .error failure) ∧
    (∃ failure, parse "\"Success\"\"Success\"".toList = .error failure) := by
  refine ⟨((parse_exactly_documents _).1 .success).2 ?_, (parse_exactly_documents _).2.2 ?_,
    (parse_exactly_documents _).2.2 ?_, (parse_exactly_documents _).2.2 ?_,
    (parse_exactly_documents _).2.2 ?_, (parse_exactly_documents _).2.2 ?_⟩
  · exact .object space noGap space noGap noGap noGap spells_capital
  · have whole : Json.Whole ['1'] := .inr ⟨⟨by simp, by simp [Text.isDigit]⟩, by simp⟩
    exact .number noGap noGap (.positive whole (.inl rfl) (.inl rfl))
  · exact astray_literal "success" fun s => by cases s <;> decide
  · exact astray_literal "spawn failed (1)" fun s => by cases s <;> decide
  · exact .object noGap noGap ⟨noGap, [member .success, member .success]⟩ (by decide)
  · exact .trailing (.name noGap noGap (Json.spells_escape (name .success).toList)) (by decide)

end Duet.Status
