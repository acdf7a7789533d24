import Duet.Proofs.Json.Lists
import Duet.Proofs.Summary.Fields

/-!
# Summaries read from a list

A summary may be written as a list of its six parts, in their order and without their names. Each
element is then read for the field whose turn it is, and the draft is finished after the last.

**A list of six is read as a summary exactly if each element is read as what the summary holds
there** (`parse_list_iff`), wherever blanks stand. The law of one element is the run of
`readElements` over the fields that are left (`toOption_readElements`); that the fields do not
touch each other is `fill_eq_some`.
-/

namespace Duet.Summary

open Json (Element Gap listText readWhole)

/-! ## Filling in a draft -/

/-- The draft after values were read for some fields, one after the other. -/
def fill (v : Field → List Char) (d : Draft) (fs : List Field) : Option Draft :=
  fs.foldlM (fun d f => (readWhole f.read (v f)).toOption.map (d.set f)) d

/-- Values that are read for different fields leave each other alone. -/
theorem fill_eq_some {v : Field → List Char} {fs : List Field} (distinct : fs.Nodup)
    {d d' : Draft} :
    fill v d fs = some d' ↔
      (∀ f ∈ fs, ∃ x, readWhole f.read (v f) = .ok x ∧ d'.get f = some x) ∧
        ∀ f, f ∉ fs → d'.get f = d.get f := by
  induction fs generalizing d with
  | nil =>
    constructor
    · intro same
      cases same
      simp
    · rintro ⟨-, same⟩
      have same : d' = d := Draft.ext_get fun f => same f List.not_mem_nil
      rw [same]
      rfl
  | cons f fs ih =>
    obtain ⟨new, distinct⟩ := List.nodup_cons.1 distinct
    have stepped : fill v d (f :: fs) = some d' ↔
        ∃ x, readWhole f.read (v f) = .ok x ∧ fill v (d.set f x) fs = some d' := by
      simp only [fill, List.foldlM_cons, Option.bind_eq_bind, Option.bind_eq_some_iff,
        Option.map_eq_some_iff, Json.toOption_eq_some]
      constructor
      · rintro ⟨_, ⟨x, decoded, rfl⟩, filled⟩
        exact ⟨x, decoded, filled⟩
      · rintro ⟨x, decoded, filled⟩
        exact ⟨_, ⟨x, decoded, rfl⟩, filled⟩
    rw [stepped]
    constructor
    · rintro ⟨x, decoded, filled⟩
      obtain ⟨read, kept⟩ := (ih distinct).1 filled
      refine ⟨?_, ?_⟩
      · intro g isIn
        rcases List.mem_cons.1 isIn with rfl | later
        · exact ⟨x, decoded, by rw [kept g new, Draft.get_set_self]⟩
        · exact read g later
      · intro g isOther
        obtain ⟨other, isOther⟩ := not_or.1 (mt List.mem_cons.2 isOther)
        rw [kept g isOther, Draft.get_set_of_ne d x other]
    · rintro ⟨read, kept⟩
      obtain ⟨x, decoded, held⟩ := read f List.mem_cons_self
      refine ⟨x, decoded, (ih distinct).2 ⟨?_, ?_⟩⟩
      · intro g isIn
        exact read g (List.mem_cons_of_mem f isIn)
      · intro g isOther
        by_cases same : g = f
        · subst same
          rw [held, Draft.get_set_self]
        · rw [Draft.get_set_of_ne d x same]
          exact kept g (by simp [same, isOther])

/-! ## Whole lists -/

/-- The elements of a list are read for the fields in their order. The induction is over the fields
that are left; the blanks in front are those after the element before. -/
theorem toOption_readElements (e : Field → Element) (fs : List Field) (count : Nat) (d : Draft)
    (b : Gap) (rest : List Char) :
    ∃ after : Gap,
      (readElements count fs d (b.1 ++ (Json.rowText count (fs.map e) ++ ']' :: rest))).toOption =
        (fill (fun f => (e f).value) d fs).map (·, after.1 ++ ']' :: rest) := by
  induction fs generalizing count d b with
  | nil => exact ⟨b, rfl⟩
  | cons f fs ih =>
    have detached := Json.detached_rowText count (fs.map e) rest
    have element := Json.toOption_readElement f.recognizes count (expected ++ " with 6 elements") b
      (e f) detached
    have shape : Json.rowText count ((f :: fs).map e) ++ ']' :: rest =
        Json.separator (count = 0) ++ (e f).text ++
          (Json.rowText (count + 1) (fs.map e) ++ ']' :: rest) := by
      simp [Json.rowText]
    rw [readElements, shape, Json.toOption_bind,
      Json.readElement_map (d.readField_eq f), Json.toOption_map, element]
    cases decoded : (readWhole f.read (e f).value).toOption with
    | none => exact ⟨b, by simp [fill, decoded]⟩
    | some x =>
      obtain ⟨after, later⟩ := ih (count + 1) (d.set f x) (e f).after
      refine ⟨after, ?_⟩
      simpa [fill, decoded] using later

theorem Field.mem_all (f : Field) : f ∈ Field.all := by
  cases f <;> simp [Field.all]

theorem Field.nodup_all : Field.all.Nodup := by
  decide

/-- Reading a list is filling in the fields in their order and finishing the draft. -/
theorem toOption_parse_list (lead trail : Gap) (e : Field → Element) :
    (parse (lead.1 ++ listText (Field.all.map e) ++ trail.1)).toOption =
      (fill (fun f => (e f).value) {} Field.all).bind fun d => d.finish.toOption := by
  refine Json.toOption_readWhole trail.2 ?_
  obtain ⟨after, elements⟩ := toOption_readElements e Field.all 0 {} ⟨[], .nil⟩ trail.1
  have shape : lead.1 ++ listText (Field.all.map e) ++ trail.1 = lead.1 ++
      '[' :: ([] ++ (Json.rowText 0 (Field.all.map e) ++ ']' :: trail.1)) := by
    simp [listText]
  rw [shape, read, Json.readBracketed_list _ _ _ lead.2]
  exact Json.toOption_leave_bind elements toOption_conclude (Json.endList_eq_none.2 ⟨after, rfl⟩)

/-- **A list is read as a summary exactly if each element is read as what the summary holds.** -/
theorem parse_list_iff (lead trail : Gap) (e : Field → Element) (s : Summary) :
    parse (lead.1 ++ listText (Field.all.map e) ++ trail.1) = .ok s ↔
      ∀ f, readWhole f.read (e f).value = .ok (s.content f) := by
  rw [← Json.toOption_eq_some, toOption_parse_list, Option.bind_eq_some_iff]
  simp only [Json.toOption_eq_some]
  simp only [fill_eq_some Field.nodup_all, Draft.finish_eq_ok]
  constructor
  · rintro ⟨d, ⟨read, -⟩, x, held, rfl⟩ f
    have decoded (f : Field) : readWhole f.read (e f).value = .ok (x f) := by
      obtain ⟨y, decoded, present⟩ := read f f.mem_all
      have same := held f
      rw [present] at same
      rw [decoded, Option.some.inj same]
    have valid (f : Field) : f.Valid (x f) :=
      ((f.recognizes.readWhole_value (e f).isValue).1 (decoded f)).valid
    rw [content_ofContents valid]
    exact decoded f
  · intro decoded
    refine ⟨Draft.ofContents fun f => some (s.content f), ⟨?_, ?_⟩, s.content, ?_,
      (ofContents_content s).symm⟩
    · intro f _
      exact ⟨s.content f, decoded f, Draft.get_ofContents _ f⟩
    · intro f isOther
      exact absurd f.mem_all isOther
    · intro f
      rw [Draft.get_ofContents]
      rfl

end Duet.Summary
