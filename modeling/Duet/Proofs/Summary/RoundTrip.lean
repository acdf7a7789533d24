import Duet.Proofs.Json.Writing
import Duet.Proofs.Summary.Elements

/-!
# Summaries are read back as they were written

A summary is written as an object, without blanks or with one member a line, and its six parts
also make up a list. Every status, code, count and duration comes back from these texts, and so
does every text of a failure, whatever characters it is made of.

**Each of the three texts is read as the summary it was written for** (`parse_written`). The
object forms go through what an object gives each field, the list form through its elements in
their order.

What this does not establish: that a text which is read was written this way. Many others are
read as the same summary.
-/

namespace Duet

open Json (Gap IsValue ObjectText Style foldMembers readInteger readWhole uint32Range uint64Range)

/-- A whole number of a range is written as one. -/
theorem Json.IntRange.means_decimalInt {range : Json.IntRange} {n : Int} (low : range.low ≤ n)
    (high : n ≤ range.high) : range.Means (Text.decimalInt n) n :=
  ⟨Json.isInteger_decimalInt n, low, high⟩

theorem Json.means_toNat (n : UInt64) :
    uint64Range.Means (Text.decimalInt n.toNat) n.toNat := by
  have fits := n.toNat_lt
  exact Json.IntRange.means_decimalInt (by simp [uint64Range]) (by simp only [uint64Range]; omega)

theorem Json.textMeans_writeString (cs : List Char) : Json.TextMeans (Json.writeString cs) cs :=
  ⟨Json.escape cs, rfl, Json.spells_escape cs⟩

namespace Duration

theorem ofParts?_parts (d : Duration) : ofParts? d.secs.toNat d.nanos = some d := by
  obtain ⟨secs, nanos, small⟩ := d
  have whole : nanos / nanosPerSecond = 0 := Nat.div_eq_of_lt small
  have rest : nanos % nanosPerSecond = nanos := Nat.mod_eq_of_lt small
  have fits : secs.toNat < UInt64.size := secs.toNat_lt_size
  simp only [ofParts?, whole, rest, Nat.add_zero, fits, if_true, UInt64.ofNat_toNat]

/-- The members a duration is written with. -/
def parts (d : Duration) : List (List Char × Int) :=
  [("secs".toList, d.secs.toNat), ("nanos".toList, d.nanos)]

theorem decodes_secs (d : Duration) :
    readWhole (readInteger uint64Range) (Text.decimalInt d.secs.toNat) = .ok d.secs.toNat := by
  have means := Json.means_toNat d.secs
  exact (recognizes_secs.readWhole_value (recognizes_secs.isValue means)).2 means

theorem decodes_nanos (d : Duration) :
    readWhole (readInteger uint32Range) (Text.decimalInt d.nanos) = .ok d.nanos := by
  have small : d.nanos < 1000000000 := d.nanos_lt
  have means : uint32Range.Means (Text.decimalInt d.nanos) d.nanos :=
    Json.IntRange.means_decimalInt (by simp [uint32Range]) (by simp only [uint32Range]; omega)
  exact (recognizes_nanos.readWhole_value (recognizes_nanos.isValue means)).2 means

/-- In every style, a duration is written as an object that is read as it. -/
theorem means_object (style : Style) (d : Duration) :
    Means (style.object (d.parts.map fun p => (p.1, .int p.2))) d := by
  have isValue (p : List Char × Int) : IsValue (style.value (.int p.2)) := by
    rw [style.value_int]
    exact .number (Json.isInteger_decimalInt p.2).isNumber
  refine .inr ⟨_, (style.text_object Prod.fst (fun p => .int p.2) isValue _ _).symm, ?_⟩
  have secs : step {} "secs".toList (Text.decimalInt d.secs.toNat) =
      some { secs := some d.secs.toNat } := by
    simp [step, decodes_secs d]
  have nanos : step { secs := some d.secs.toNat } "nanos".toList (Text.decimalInt d.nanos) =
      some { secs := some d.secs.toNat, nanos := some d.nanos } := by
    simp [step, decodes_nanos d]
  rw [Json.foldMembers_eq, style.map_written]
  simp only [List.map_cons, List.map_nil, style.value_int, List.foldlM_cons, List.foldlM_nil]
  rw [secs]
  show ((step { secs := some d.secs.toNat } "nanos".toList (Text.decimalInt d.nanos)).bind
    pure).bind Draft.finish? = some d
  rw [nanos]
  exact ofParts?_parts d

theorem means_compact (d : Duration) : Means (Style.compact.value d.toJson) d := by
  have means := means_object .compact d
  rwa [← Style.compact_object] at means

theorem means_indented (level : Nat) (d : Duration) :
    Means ((Style.indented level).value d.toJson) d := by
  have means := means_object (.indented (level + 1)) d
  rwa [parts, List.map_cons, ← Style.indented_object] at means

end Duration

namespace Summary

/-- Every part of a summary is written as a value that means it. -/
theorem means_fieldJson {style : Style}
    (duration : ∀ d : Duration, Duration.Means (style.value d.toJson) d) (s : Summary)
    (f : Field) : f.Means (style.value (s.fieldJson f)) (s.content f) := by
  cases f with
  | status =>
    show Status.Means (style.value (.str s.status.name.toList)) s.status
    rw [style.value_str]
    exact .inl (Json.textMeans_writeString _)
  | code =>
    show Json.int32Range.Means (style.value (.int s.code.toInt)) s.code.toInt
    rw [style.value_int]
    exact Json.IntRange.means_decimalInt s.code.le_toInt (Int.le_sub_one_of_lt s.code.toInt_lt)
  | failure =>
    show Json.OptionMeans Json.TextMeans
      (style.value ((s.failure.map fun text => Json.str text.toList).getD .null))
      (s.failure.map (·.toList))
    cases s.failure with
    | none => exact style.value_null
    | some text =>
      show Json.TextMeans (style.value (.str text.toList)) text.toList
      rw [style.value_str]
      exact Json.textMeans_writeString _
  | spawned =>
    show uint64Range.Means (style.value (.int s.spawned.toNat)) s.spawned.toNat
    rw [style.value_int]
    exact Json.means_toNat s.spawned
  | joined =>
    show uint64Range.Means (style.value (.int s.joined.toNat)) s.joined.toNat
    rw [style.value_int]
    exact Json.means_toNat s.joined
  | elapsed =>
    show Json.OptionMeans Duration.Means
      (style.value ((s.elapsed.map Duration.toJson).getD .null)) s.elapsed
    cases s.elapsed with
    | none => exact style.value_null
    | some d => exact duration d

/-! ## The object forms -/

theorem filter_all_name (f : Field) : Field.all.filter (·.name.toList = f.name.toList) = [f] := by
  cases f <;> decide

/-- In every style, a summary is read from the object it is written as. -/
theorem parse_object {style : Style}
    (duration : ∀ d : Duration, Duration.Means (style.value d.toJson) d) (s : Summary) :
    parse (style.object (Field.all.map fun f => (f.name.toList, s.fieldJson f))) = .ok s := by
  have means := means_fieldJson duration s
  have isValue (f : Field) := f.recognizes.isValue (means f)
  let o : ObjectText := ⟨.none, style.written (·.name.toList) s.fieldJson isValue Field.all⟩
  have text : o.text = style.object (Field.all.map fun f => (f.name.toList, s.fieldJson f)) :=
    style.text_object (·.name.toList) s.fieldJson isValue _ _
  have values (f : Field) :
      valuesOf f.name.toList o.members = [style.value (s.fieldJson f)] := by
    rw [valuesOf_eq, style.map_written, List.filter_map, Function.comp_def, filter_all_name f]
    rfl
  have read : parse ([] ++ o.text ++ []) = .ok s := (parse_object_iff .none .none o s).2 fun f =>
    .inr ⟨_, values f, (f.recognizes.readWhole_value (isValue f)).2 (means f)⟩
  rw [← text]
  simpa using read

theorem parse_compact (s : Summary) : parse s.toJson.compact = .ok s := by
  rw [toJson, Style.compact_object]
  exact parse_object Duration.means_compact s

theorem parse_pretty (s : Summary) : parse (s.toJson.pretty 0) = .ok s := by
  rw [toJson, Field.all, List.map_cons, Style.indented_object]
  exact parse_object (Duration.means_indented 0) s

/-! ## The list form -/

/-- A part of a summary as it stands in a list. -/
def element (s : Summary) (f : Field) : Json.Element where
  value := (s.fieldJson f).compact
  isValue := f.recognizes.isValue (means_fieldJson Duration.means_compact s f)
  before := .none
  after := .none

theorem compactElements_eq (s : Summary) (f : Field) (fs : List Field) (count : Nat) :
    Json.separator (count = 0) ++ Json.compactElements ((f :: fs).map s.fieldJson) =
      Json.rowText count ((f :: fs).map s.element) := by
  induction fs generalizing f count with
  | nil => simp [Json.rowText, Json.Element.text, element, Gap.none, Json.compactElements]
  | cons g fs ih =>
    have later := ih g (count + 1)
    show _ = Json.separator (count = 0) ++ (s.element f).text ++
      Json.rowText (count + 1) ((g :: fs).map s.element)
    rw [← later]
    simp [Json.Element.text, element, Gap.none, Json.compactElements, Json.separator]

theorem parse_list (s : Summary) : parse s.toJsonList.compact = .ok s := by
  have text : s.toJsonList.compact = [] ++ Json.listText (Field.all.map s.element) ++ [] := by
    have row := compactElements_eq s .status [.code, .failure, .spawned, .joined, .elapsed] 0
    rw [toJsonList, Json.compact, Json.listText, Field.all, ← row]
    simp [Json.separator]
  rw [text]
  refine (parse_list_iff .none .none s.element s).2 fun f => ?_
  have means := means_fieldJson Duration.means_compact s f
  exact (f.recognizes.readWhole_value (s.element f).isValue).2 means

/-- **Every summary is read back from each of its texts.** -/
theorem parse_written (s : Summary) :
    parse s.compact.toList = .ok s ∧ parse s.pretty.toList = .ok s ∧
      parse s.toJsonList.compact = .ok s := by
  refine ⟨?_, ?_, parse_list s⟩
  · rw [compact, String.toList_ofList]
    exact parse_compact s
  · rw [pretty, String.toList_ofList]
    exact parse_pretty s

end Summary

end Duet
