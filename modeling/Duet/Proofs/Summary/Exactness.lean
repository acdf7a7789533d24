import Duet.Proofs.Json.Numerals
import Duet.Proofs.Summary.Elements
import Mathlib.Tactic.Choose

/-!
# The numbers of a summary are kept exactly

A summary holds three numbers, and the seconds and nanoseconds of a duration if it tells a time.
Each has a place of a fixed width, while the text may have any number there, of any length, with a
fraction or an exponent.

**A text that is in order but for its numbers is read exactly if all of them are whole numbers that
their places can hold, and then none is changed** (`Numerals.parse_exact`). The nanoseconds of a
duration may be a second and more; what they carry has to fit into the seconds, and the total stays
the same.

What this does not establish: what becomes of a text that is out of order elsewhere.
-/

namespace Duet

open Json (Element Gap Numeral ObjectText foldMembers listText readInteger readWhole uint32Range
  uint64Range)

/-! ## Durations with any numbers -/

namespace Duration

/-- **The texts of a duration with given numbers in place of its parts**: a list of the two, or an
object that has both as its members, in either order. -/
inductive Written (secs nanos : Numeral) : List Char → Prop where
  | list (s n : Element) (isSecs : s.value = secs.text) (isNanos : n.value = nanos.text) :
    Written secs nanos (listText [s, n])
  | object (o : ObjectText)
    (parts : (o.members.map fun m => (m.key, m.value)) =
        [("secs".toList, secs.text), ("nanos".toList, nanos.text)] ∨
      (o.members.map fun m => (m.key, m.value)) =
        [("nanos".toList, nanos.text), ("secs".toList, secs.text)]) : Written secs nanos o.text

theorem Written.isValue {secs nanos : Numeral} {w : List Char} (written : Written secs nanos w) :
    Json.IsValue w := by
  cases written with
  | list s n => exact Json.isValue_listText [s, n]
  | object o => exact o.isValue

theorem ofDraft_eq_ok {secs nanos : Int} {rest r : List Char} {d : Duration} :
    ofDraft secs nanos rest = .ok (d, r) ↔ ofParts? secs.toNat nanos.toNat = some d ∧ r = rest := by
  rw [← Json.toOption_eq_some, toOption_ofDraft, Option.map_eq_some_iff]
  constructor
  · rintro ⟨d', fits, same⟩
    cases same
    exact ⟨fits, rfl⟩
  · rintro ⟨fits, rfl⟩
    exact ⟨d, fits, rfl⟩

/-- The list form is read as its two elements are. -/
theorem readWhole_list {s n : Element} {d : Duration} :
    readWhole read (listText [s, n]) = .ok d ↔
      ∃ secs nanos, readWhole (readInteger uint64Range) s.value = .ok secs ∧
        readWhole (readInteger uint32Range) n.value = .ok nanos ∧
        ofParts? secs.toNat nanos.toNat = some d := by
  have shape : listText [s, n] = [] ++ '[' :: ([] ++ (Json.separator (0 = 0) ++ s.text ++
      (Json.separator (1 = 0) ++ n.text ++ [']']))) := by
    simp [listText, Json.rowText]
  have close : Json.Detached [']'] := .cons [] (by decide)
  have first {secs : Int} {r : List Char} := Json.readElement_iff recognizes_secs 0 expected
    ⟨[], .nil⟩ s (r := r) (Json.detached_comma (n.text ++ [']'])) (a := secs)
  have second {nanos : Int} {r : List Char} :=
    Json.readElement_iff recognizes_nanos 1 expected s.after n (r := r) close (a := nanos)
  rw [Json.readWhole_eq_ok, shape, read]
  simp only [Json.readBracketed_list expected readList readObject Json.Blanks.nil,
    Json.leave_eq_ok]
  constructor
  · rintro ⟨_, ⟨after, inside, _⟩, _⟩
    obtain ⟨⟨secs, after₁⟩, taken, inside⟩ := Json.bind_eq_ok.1 inside
    obtain ⟨isSecs, rfl⟩ := first.1 taken
    obtain ⟨⟨nanos, after₂⟩, taken, inside⟩ := Json.bind_eq_ok.1 inside
    obtain ⟨isNanos, rfl⟩ := second.1 taken
    exact ⟨secs, nanos, isSecs, isNanos, (ofDraft_eq_ok.1 inside).1⟩
  · rintro ⟨secs, nanos, isSecs, isNanos, fits⟩
    refine ⟨[], ⟨n.after.1 ++ [']'], ?_, Json.endList_eq_none.2 ⟨n.after, rfl⟩⟩, .nil⟩
    refine Json.bind_eq_ok.2 ⟨_, first.2 ⟨isSecs, rfl⟩, ?_⟩
    refine Json.bind_eq_ok.2 ⟨_, second.2 ⟨isNanos, rfl⟩, ?_⟩
    exact ofDraft_eq_ok.2 ⟨fits, rfl⟩

theorem readWhole_object (o : ObjectText) {d : Duration} :
    readWhole read o.text = .ok d ↔
      (foldMembers step {} o.members).bind Draft.finish? = some d := by
  have inner := toOption_leave_readObject o []
  have taken : (read o.text).toOption =
      ((foldMembers step {} o.members).bind Draft.finish?).map (·, []) := by
    rw [← inner, ← Json.readBracketed_object expected readList readObject Json.Blanks.nil, read]
    simp [ObjectText.text]
  rw [← Json.toOption_eq_some, Json.toOption_readWhole Json.Blanks.nil taken]

theorem step_secs {d : Draft} (fresh : d.secs = none) (v : List Char) :
    step d "secs".toList v =
      (readWhole (readInteger uint64Range) v).toOption.map fun n => { d with secs := some n } := by
  simp [step, fresh]

theorem step_nanos {d : Draft} (fresh : d.nanos = none) (v : List Char) :
    step d "nanos".toList v =
      (readWhole (readInteger uint32Range) v).toOption.map fun n => { d with nanos := some n } := by
  simp [step, fresh]

/-- The fold over the two members of a duration does not depend on their order. -/
theorem foldMembers_parts {secs nanos : List Char} {row : List (List Char × List Char)}
    (parts : row = [("secs".toList, secs), ("nanos".toList, nanos)] ∨
      row = [("nanos".toList, nanos), ("secs".toList, secs)]) :
    (row.foldlM (fun d part => step d part.1 part.2) {}).bind Draft.finish? =
      (readWhole (readInteger uint64Range) secs).toOption.bind fun s =>
        (readWhole (readInteger uint32Range) nanos).toOption.bind fun n =>
          ofParts? s.toNat n.toNat := by
  rcases parts with rfl | rfl
  · rw [List.foldlM_cons, step_secs rfl]
    cases (readWhole (readInteger uint64Range) secs).toOption with
    | none => rfl
    | some s =>
      show ((step { secs := some s } "nanos".toList nanos).bind some).bind Draft.finish? = _
      rw [step_nanos rfl]
      cases (readWhole (readInteger uint32Range) nanos).toOption <;> rfl
  · rw [List.foldlM_cons, step_nanos rfl]
    cases (readWhole (readInteger uint32Range) nanos).toOption with
    | none =>
      cases (readWhole (readInteger uint64Range) secs).toOption <;> rfl
    | some n =>
      show ((step { nanos := some n } "secs".toList secs).bind some).bind Draft.finish? = _
      rw [step_secs rfl]
      cases (readWhole (readInteger uint64Range) secs).toOption <;> rfl

/-- **A duration is read from its numbers alone**, whichever form it is written in. -/
theorem Written.readWhole_iff {secs nanos : Numeral} {w : List Char}
    (written : Written secs nanos w) {d : Duration} :
    readWhole read w = .ok d ↔
      ∃ s n, readWhole (readInteger uint64Range) secs.text = .ok s ∧
        readWhole (readInteger uint32Range) nanos.text = .ok n ∧
        ofParts? s.toNat n.toNat = some d := by
  cases written with
  | list s n isSecs isNanos => rw [readWhole_list, isSecs, isNanos]
  | object o parts =>
    rw [readWhole_object, Json.foldMembers_eq, foldMembers_parts parts]
    simp only [Option.bind_eq_some_iff, Json.toOption_eq_some, exists_and_left]

theorem exists_ofParts?_iff {secs nanos : Nat} :
    (∃ d, ofParts? secs nanos = some d) ↔ secs + nanos / 1000000000 ≤ 0xFFFF_FFFF_FFFF_FFFF := by
  have bound : secs + nanos / nanosPerSecond < UInt64.size ↔
      secs + nanos / 1000000000 ≤ 0xFFFF_FFFF_FFFF_FFFF := Nat.lt_succ_iff
  rw [← bound]
  constructor
  · rintro ⟨d, carried⟩
    by_cases fits : secs + nanos / nanosPerSecond < UInt64.size
    · exact fits
    · simp [ofParts?, fits] at carried
  · intro fits
    simp [ofParts?, fits]

/-- The numbers that make up a duration: whole ones in their ranges, with room for the seconds
that the nanoseconds carry. -/
def Fits (secs nanos : Numeral) : Prop :=
  ∃ i j, secs.integer? = some i ∧ 0 ≤ i ∧ i ≤ 0xFFFF_FFFF_FFFF_FFFF ∧
    nanos.integer? = some j ∧ 0 ≤ j ∧ j ≤ 0xFFFF_FFFF ∧
    i + j / 1000000000 ≤ 0xFFFF_FFFF_FFFF_FFFF

/-- A duration has the total that its numbers say, whatever was carried. -/
def Totals (d : Duration) (secs nanos : Numeral) : Prop :=
  ∃ i j, secs.integer? = some i ∧ nanos.integer? = some j ∧ d.nanos < 1000000000 ∧
    (d.secs.toNat * 1000000000 + d.nanos : Int) = i * 1000000000 + j

/-- **Which numbers are read as a duration.** -/
theorem Written.exists_iff {secs nanos : Numeral} {w : List Char} (written : Written secs nanos w) :
    (∃ d, readWhole read w = .ok d) ↔ Fits secs nanos := by
  simp only [written.readWhole_iff, secs.readWhole_text Json.uint64Range_exact,
    nanos.readWhole_text Json.uint32Range_exact]
  constructor
  · rintro ⟨d, i, j, ⟨isSecs, low, high⟩, ⟨isNanos, low', high'⟩, carried⟩
    have low : 0 ≤ i := low
    have low' : 0 ≤ j := low'
    have fits := exists_ofParts?_iff.1 ⟨d, carried⟩
    exact ⟨i, j, isSecs, low, high, isNanos, low', high', by omega⟩
  · rintro ⟨i, j, isSecs, low, high, isNanos, low', high', fits⟩
    obtain ⟨d, carried⟩ := exists_ofParts?_iff.2
      (show i.toNat + j.toNat / 1000000000 ≤ 0xFFFF_FFFF_FFFF_FFFF by omega)
    exact ⟨d, i, j, ⟨isSecs, low, high⟩, ⟨isNanos, low', high'⟩, carried⟩

/-- **Carrying keeps the total of the numbers that were written.** -/
theorem Written.totals {secs nanos : Numeral} {w : List Char} (written : Written secs nanos w)
    {d : Duration} (decoded : readWhole read w = .ok d) : d.Totals secs nanos := by
  obtain ⟨i, j, isSecs, isNanos, carried⟩ := written.readWhole_iff.1 decoded
  obtain ⟨isSecs, low, _⟩ := (secs.readWhole_text Json.uint64Range_exact).1 isSecs
  obtain ⟨isNanos, low', _⟩ := (nanos.readWhole_text Json.uint32Range_exact).1 isNanos
  have low : 0 ≤ i := low
  have low' : 0 ≤ j := low'
  have total : d.secs.toNat * 1000000000 + d.nanos = i.toNat * 1000000000 + j.toNat :=
    total_ofParts? carried
  exact ⟨i, j, isSecs, isNanos, d.nanos_lt, by omega⟩

/-- A duration that is written is told from nothing by its bracket. -/
theorem Written.readOptional_iff {secs nanos : Numeral} {w : List Char}
    (written : Written secs nanos w) {x : Option Duration} :
    readWhole (Json.readOptional read) w = .ok x ↔
      ∃ d, x = some d ∧ readWhole read w = .ok d := by
  have optional := Summary.Field.elapsed.recognizes
  rw [show readWhole (Json.readOptional read) w = .ok x ↔ Json.OptionMeans Means w x from
    optional.readWhole_value written.isValue]
  simp only [recognizes.readWhole_value written.isValue]
  cases x with
  | some d => simp [Json.OptionMeans]
  | none =>
    have other : w ≠ "null".toList := by
      cases written with
      | list s n => simp [listText]
      | object o => simp [ObjectText.text]
    refine iff_of_false other ?_
    rintro ⟨d, same, _⟩
    cases same

end Duration

namespace Summary

/-! ## Summaries with any numbers -/

/-- The numbers in the text of a summary, as they are written. -/
structure Numerals where
  code : Numeral
  spawned : Numeral
  joined : Numeral
  /-- The seconds and the nanoseconds, if a time is told. -/
  elapsed : Option (Numeral × Numeral)

namespace Numerals

/-- What may stand for a field: the number it is given, and for the two fields that are no numbers
any value that can be read. -/
def Fills (n : Numerals) : Field → List Char → Prop
  | .status, v => ∃ status, readWhole Status.read v = .ok status
  | .code, v => v = n.code.text
  | .failure, v => ∃ failure, readWhole (Json.readOptional Json.readText) v = .ok failure
  | .spawned, v => v = n.spawned.text
  | .joined, v => v = n.joined.text
  | .elapsed, v =>
    match n.elapsed with
    | none => v = "null".toList
    | some (secs, nanos) => Duration.Written secs nanos v

/-- Which fields an object may leave out. -/
def Omits (n : Numerals) : Field → Prop
  | .failure => True
  | .elapsed => n.elapsed = none
  | .status | .code | .spawned | .joined => False

/-- **The texts of a summary that are in order but for their numbers**, which are the given ones:
an object of any members that has each field once or leaves it out, or a list of the six. -/
inductive Placed (n : Numerals) : List Char → Prop where
  | object (lead trail : Gap) (o : ObjectText)
    (fills : ∀ f : Field, valuesOf f.name.toList o.members = [] ∧ n.Omits f ∨
      ∃ v, valuesOf f.name.toList o.members = [v] ∧ n.Fills f v) :
    Placed n (lead.1 ++ o.text ++ trail.1)
  | list (lead trail : Gap) (e : Field → Element) (fills : ∀ f, n.Fills f (e f).value) :
    Placed n (lead.1 ++ listText (Field.all.map e) ++ trail.1)

/-- What is asked of the numbers of a field. -/
def Fits (n : Numerals) : Field → Prop
  | .code => ∃ i, n.code.integer? = some i ∧ -0x8000_0000 ≤ i ∧ i ≤ 0x7FFF_FFFF
  | .spawned => ∃ i, n.spawned.integer? = some i ∧ 0 ≤ i ∧ i ≤ 0xFFFF_FFFF_FFFF_FFFF
  | .joined => ∃ i, n.joined.integer? = some i ∧ 0 ≤ i ∧ i ≤ 0xFFFF_FFFF_FFFF_FFFF
  | .elapsed => ∀ secs nanos, n.elapsed = some (secs, nanos) → Duration.Fits secs nanos
  | .status | .failure => True

/-- What a summary holds for the numbers of a field: their values, and of a duration the total. -/
def Kept (n : Numerals) (s : Summary) : Field → Prop
  | .code => n.code.integer? = some s.code.toInt
  | .spawned => n.spawned.integer? = some s.spawned.toNat
  | .joined => n.joined.integer? = some s.joined.toNat
  | .elapsed =>
    match n.elapsed with
    | none => s.elapsed = none
    | some (secs, nanos) => ∃ d, s.elapsed = some d ∧ d.Totals secs nanos
  | .status | .failure => True

/-! ## One field -/

/-- A value is read for a field exactly if its numbers fit. -/
theorem exists_iff_of_fills {n : Numerals} {f : Field} {v : List Char} (fills : n.Fills f v) :
    (∃ x, readWhole f.read v = .ok x) ↔ n.Fits f := by
  cases f with
  | status => exact ⟨fun _ => trivial, fun _ => fills⟩
  | failure => exact ⟨fun _ => trivial, fun _ => fills⟩
  | code =>
    obtain rfl : v = n.code.text := fills
    exact exists_congr fun i => n.code.readWhole_text Json.int32Range_exact
  | spawned =>
    obtain rfl : v = n.spawned.text := fills
    exact exists_congr fun i => n.spawned.readWhole_text Json.uint64Range_exact
  | joined =>
    obtain rfl : v = n.joined.text := fills
    exact exists_congr fun i => n.joined.readWhole_text Json.uint64Range_exact
  | elapsed =>
    obtain ⟨_, _, _, elapsed⟩ := n
    cases elapsed with
    | none =>
      obtain rfl : v = "null".toList := fills
      have null := Field.elapsed.recognizes.readWhole_value Json.Derives.null (a := none)
      constructor
      · rintro - secs nanos told
        cases told
      · intro _
        exact ⟨none, null.2 rfl⟩
    | some parts =>
      obtain ⟨secs, nanos⟩ := parts
      have written : Duration.Written secs nanos v := fills
      constructor
      · rintro ⟨x, decoded⟩ _ _ told
        cases told
        obtain ⟨d, _, decoded⟩ := written.readOptional_iff.1 decoded
        exact written.exists_iff.1 ⟨d, decoded⟩
      · intro fits
        obtain ⟨d, decoded⟩ := written.exists_iff.2 (fits secs nanos rfl)
        exact ⟨some d, written.readOptional_iff.2 ⟨d, rfl, decoded⟩⟩

/-- What is read from a value keeps its numbers. -/
theorem kept_of_fills {n : Numerals} {f : Field} {v : List Char} (fills : n.Fills f v)
    {s : Summary} (decoded : readWhole f.read v = .ok (s.content f)) : n.Kept s f := by
  cases f with
  | status => trivial
  | failure => trivial
  | code =>
    obtain rfl : v = n.code.text := fills
    exact ((n.code.readWhole_text Json.int32Range_exact).1 decoded).1
  | spawned =>
    obtain rfl : v = n.spawned.text := fills
    exact ((n.spawned.readWhole_text Json.uint64Range_exact).1 decoded).1
  | joined =>
    obtain rfl : v = n.joined.text := fills
    exact ((n.joined.readWhole_text Json.uint64Range_exact).1 decoded).1
  | elapsed =>
    obtain ⟨_, _, _, elapsed⟩ := n
    cases elapsed with
    | none =>
      obtain rfl : v = "null".toList := fills
      have null := Field.elapsed.recognizes.readWhole_value Json.Derives.null (a := none)
      exact Except.ok.inj (decoded.symm.trans (null.2 rfl))
    | some parts =>
      have written : Duration.Written parts.1 parts.2 v := fills
      obtain ⟨d, isElapsed, decoded⟩ := written.readOptional_iff.1 decoded
      exact ⟨d, isElapsed, written.totals decoded⟩

theorem valid_of_fills {n : Numerals} {f : Field} {v : List Char} (fills : n.Fills f v)
    {x : f.Content} (decoded : readWhole f.read v = .ok x) : f.Valid x := by
  cases f with
  | status => trivial
  | failure => trivial
  | elapsed => trivial
  | code =>
    obtain rfl : v = n.code.text := fills
    exact ((n.code.readWhole_text Json.int32Range_exact).1 decoded).2
  | spawned =>
    obtain rfl : v = n.spawned.text := fills
    exact ((n.spawned.readWhole_text Json.uint64Range_exact).1 decoded).2
  | joined =>
    obtain rfl : v = n.joined.text := fills
    exact ((n.joined.readWhole_text Json.uint64Range_exact).1 decoded).2

/-- The place of a field: it is left out, or has a value that fills it. What it `gives` is what the
field then holds. -/
def Reads (n : Numerals) (f : Field) (gives : f.Content → Prop) : Prop :=
  (n.Omits f ∧ ∀ x, gives x ↔ f.absent? = some x) ∨
    ∃ v, n.Fills f v ∧ ∀ x, gives x ↔ readWhole f.read v = .ok x

theorem Reads.exists_iff {n : Numerals} {f : Field} {gives : f.Content → Prop}
    (reads : n.Reads f gives) : (∃ x, gives x) ↔ n.Fits f := by
  rcases reads with ⟨omits, absent⟩ | ⟨v, fills, decoded⟩
  · simp only [absent]
    cases f with
    | failure => exact ⟨fun _ => trivial, fun _ => ⟨none, rfl⟩⟩
    | elapsed =>
      have untold : n.elapsed = none := omits
      refine ⟨?_, fun _ => ⟨none, rfl⟩⟩
      rintro - secs nanos told
      rw [untold] at told
      cases told
    | _ => cases omits
  · simp only [decoded]
    exact exists_iff_of_fills fills

theorem Reads.kept {n : Numerals} {f : Field} {gives : f.Content → Prop} (reads : n.Reads f gives)
    {s : Summary} (given : gives (s.content f)) : n.Kept s f := by
  rcases reads with ⟨omits, absent⟩ | ⟨v, fills, decoded⟩
  · cases f with
    | failure => trivial
    | elapsed =>
      have untold : n.elapsed = none := omits
      have isNone : some none = some s.elapsed := (absent _).1 given
      simp only [Kept, untold]
      exact (Option.some.inj isNone).symm
    | _ => cases omits
  · exact kept_of_fills fills ((decoded _).1 given)

theorem Reads.valid {n : Numerals} {f : Field} {gives : f.Content → Prop} (reads : n.Reads f gives)
    {x : f.Content} (given : gives x) : f.Valid x := by
  rcases reads with ⟨omits, _⟩ | ⟨v, fills, decoded⟩
  · cases f with
    | failure => trivial
    | elapsed => trivial
    | _ => cases omits
  · exact valid_of_fills fills ((decoded x).1 given)

/-! ## Whole texts -/

/-- **In both forms a text is read field by field**, from what stands in the place of each. -/
theorem Placed.reads {n : Numerals} {text : List Char} (placed : n.Placed text) :
    ∃ gives : (f : Field) → f.Content → Prop,
      (∀ s, parse text = .ok s ↔ ∀ f, gives f (s.content f)) ∧ ∀ f, n.Reads f (gives f) := by
  cases placed with
  | object lead trail o fills =>
    refine ⟨Gives o.members, parse_object_iff lead trail o, ?_⟩
    intro f
    rcases fills f with ⟨none, omits⟩ | ⟨v, one, fills⟩
    · exact .inl ⟨omits, fun x => by simp [Gives, none]⟩
    · exact .inr ⟨v, fills, fun x => by simp [Gives, one]⟩
  | list lead trail e fills =>
    refine ⟨fun f x => readWhole f.read (e f).value = .ok x, parse_list_iff lead trail e, ?_⟩
    intro f
    exact .inr ⟨(e f).value, fills f, fun x => Iff.rfl⟩

/-- Contents that are asked of each field by itself are those of a summary if all have a place. -/
theorem exists_content_iff {gives : (f : Field) → f.Content → Prop}
    (valid : ∀ (f : Field) (x : f.Content), gives f x → f.Valid x) :
    (∃ s : Summary, ∀ f, gives f (s.content f)) ↔ ∀ f, ∃ x, gives f x := by
  constructor
  · rintro ⟨s, given⟩ f
    exact ⟨s.content f, given f⟩
  · intro some
    choose x given using some
    refine ⟨ofContents x, fun f => ?_⟩
    rw [content_ofContents fun f => valid f (x f) (given f)]
    exact given f

/-- **A text is read exactly if its numbers are whole and in range, and they are never wrapped, cut
or rounded.** -/
theorem parse_exact {n : Numerals} {text : List Char} (placed : n.Placed text) :
    ((∃ s, parse text = .ok s) ↔ ∀ f, n.Fits f) ∧
      ∀ s, parse text = .ok s → ∀ f, n.Kept s f := by
  obtain ⟨gives, parsed, reads⟩ := placed.reads
  simp only [parsed]
  refine ⟨?_, ?_⟩
  · rw [exists_content_iff fun f x => (reads f).valid]
    exact forall_congr' fun f => (reads f).exists_iff
  · intro s given f
    exact (reads f).kept (given f)

private def unsigned (k : Nat) : Numeral :=
  ⟨false, Text.decimal k, [], [], Json.whole_decimal k, .inl rfl, .inl rfl⟩

private theorem integer?_unsigned (k : Nat) : (unsigned k).integer? = some (k : Int) := by
  simp [unsigned, Numeral.integer?, Text.numeralValue_decimal]

/-- The least code, and as many nanoseconds as there may be. -/
private def extreme (secs : Nat) : Numerals where
  code := ⟨true, Text.decimal 2147483648, [], [], Json.whole_decimal _, .inl rfl, .inl rfl⟩
  spawned := unsigned 18446744073709551615
  joined := unsigned 0
  elapsed := some (unsigned secs, unsigned 4294967295)

private def alone (v : List Char) (isValue : Json.IsValue v) : Element :=
  ⟨v, isValue, ⟨[], .nil⟩, ⟨[], .nil⟩⟩

private def number (n : Numeral) : Element :=
  alone n.text (.number n.isNumber)

private def row (secs : Nat) : Field → Element
  | .status => alone "\"Success\"".toList (.string (Json.spells_escape "Success".toList).literal)
  | .code => number (extreme secs).code
  | .failure => alone "null".toList .null
  | .spawned => number (unsigned 18446744073709551615)
  | .joined => number (unsigned 0)
  | .elapsed =>
    alone _ (Json.isValue_listText [number (unsigned secs), number (unsigned 4294967295)])

private theorem readWhole_success :
    readWhole Status.read "\"Success\"".toList = .ok .success :=
  Json.toOption_eq_some.1 (by decide +kernel)

private theorem readWhole_null :
    readWhole (Json.readOptional Json.readText) "null".toList = .ok none :=
  Json.toOption_eq_some.1 (by decide +kernel)

private theorem placed_row (secs : Nat) :
    (extreme secs).Placed ([] ++ listText (Field.all.map (row secs)) ++ []) := by
  refine .list ⟨[], .nil⟩ ⟨[], .nil⟩ (row secs) fun f => ?_
  cases f with
  | status => exact ⟨.success, readWhole_success⟩
  | code => rfl
  | failure => exact ⟨none, readWhole_null⟩
  | spawned => rfl
  | joined => rfl
  | elapsed => exact .list (number (unsigned secs)) (number (unsigned 4294967295)) rfl rfl

/-- Four seconds are carried, and the seconds that were written are just few enough or one too
many. -/
theorem parse_exact_carrying :
    listText (Field.all.map (row 18446744073709551611)) =
      ("[\"Success\",-2147483648,null,18446744073709551615,0," ++
        "[18446744073709551611,4294967295]]").toList ∧
    (∃ s, parse ([] ++ listText (Field.all.map (row 18446744073709551611)) ++ []) = .ok s ∧
      ∀ f, (extreme 18446744073709551611).Kept s f) ∧
    ¬ ∃ s, parse ([] ++ listText (Field.all.map (row 18446744073709551612)) ++ []) = .ok s := by
  refine ⟨by decide +kernel, ?_, ?_⟩
  · have exact := parse_exact (placed_row 18446744073709551611)
    obtain ⟨s, parsed⟩ := exact.1.2 fun f => by
      cases f with
      | status => trivial
      | failure => trivial
      | code => exact ⟨-2147483648, by decide +kernel, by decide, by decide⟩
      | spawned => exact ⟨_, integer?_unsigned _, by decide, by decide⟩
      | joined => exact ⟨_, integer?_unsigned _, by decide, by decide⟩
      | elapsed =>
        rintro _ _ ⟨⟩
        exact ⟨_, _, integer?_unsigned _, by decide, by decide, integer?_unsigned _, by decide,
          by decide, by decide⟩
    exact ⟨s, parsed, exact.2 s parsed⟩
  · intro parsed
    have fits := (parse_exact (placed_row 18446744073709551612)).1.1 parsed
    obtain ⟨i, j, isSecs, _, _, isNanos, _, _, room⟩ := fits .elapsed _ _ rfl
    cases (integer?_unsigned _).symm.trans isSecs
    cases (integer?_unsigned _).symm.trans isNanos
    exact absurd room (by decide)

end Numerals

end Summary

end Duet
