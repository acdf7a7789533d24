import Duet.Json.Value
import Duet.Proofs.Json.Objects

/-!
# Objects as they are written by the two writers

A value is written without blanks, or with one member a line. The two ways differ only in the
blanks they put between the pieces of an object, so a `Style` is these blanks with the writer that
puts them there.

**What a style writes for an object is the text of its members** (`Style.text_object`), with keys
spelled as literals and values written in the same style. What is read from members can therefore
be said of what was written, for both writers at once.
-/

namespace Duet.Json

/-- A way of writing the members of an object. -/
structure Style where
  /-- How the values of members are written. -/
  value : Json → List Char
  members : List (List Char × Json) → List Char
  before : Gap
  lead : Gap
  close : Gap
  members_one (k : List Char) (v : Json) :
    members [(k, v)] = before.1 ++ writeString k ++ ':' :: lead.1 ++ value v
  members_more (k : List Char) (v : Json) (m : List Char × Json) (ms : List (List Char × Json)) :
    members ((k, v) :: m :: ms) =
      before.1 ++ writeString k ++ ':' :: lead.1 ++ value v ++ ',' :: members (m :: ms)
  value_null : value .null = "null".toList
  value_int (n : Int) : value (.int n) = Text.decimalInt n
  value_str (cs : List Char) : value (.str cs) = writeString cs

/-- No blanks at all. -/
def Gap.none : Gap := ⟨[], .nil⟩

/-- The blanks at the beginning of a line. -/
def Gap.line (level : Nat) : Gap :=
  ⟨newLine level, by
    intro c isIn
    rcases List.mem_cons.1 isIn with rfl | space
    · decide
    · rw [List.eq_of_mem_replicate space]
      decide⟩

namespace Style

/-- Writing without blanks. -/
def compact : Style where
  value := Json.compact
  members := compactMembers
  before := .none
  lead := .none
  close := .none
  members_one k v := by simp [compactMembers, Gap.none]
  members_more k v m ms := by simp [compactMembers, Gap.none]
  value_null := by simp [Json.compact]
  value_int n := by simp [Json.compact]
  value_str cs := by simp [Json.compact]

/-- Writing with one member a line. -/
def indented (level : Nat) : Style where
  value := pretty (level + 1)
  members := prettyMembers (level + 1)
  before := .line (level + 1)
  lead := ⟨[' '], by decide⟩
  close := .line level
  members_one k v := by simp [prettyMembers, Gap.line]
  members_more k v m ms := by simp [prettyMembers, Gap.line]
  value_null := by simp [pretty]
  value_int n := by simp [pretty]
  value_str cs := by simp [pretty]

variable (style : Style)

/-- What a style writes for an object that is not empty. -/
def object (ms : List (List Char × Json)) : List Char :=
  '\x7b' :: style.members ms ++ style.close.1 ++ ['\x7d']

theorem compact_object (ms : List (List Char × Json)) :
    (Json.obj ms).compact = compact.object ms := by
  simp [Json.compact, object, compact, Gap.none]

theorem indented_object (level : Nat) (m : List Char × Json) (ms : List (List Char × Json)) :
    (Json.obj (m :: ms)).pretty level = (indented level).object (m :: ms) := by
  simp [pretty, object, indented, Gap.line]

/-! ## The members of what is written -/

section Members

variable {ι : Type} (key : ι → List Char) (json : ι → Json)
  (isValue : ∀ i, IsValue (style.value (json i)))

/-- One member as it is written. -/
def member (after : Gap) (i : ι) : Member where
  key := key i
  value := style.value (json i)
  spelling := escape (key i)
  spells := spells_escape (key i)
  isValue := isValue i
  before := style.before
  colon := .none
  lead := style.lead
  after := after

/-- All members as they are written; only after the last come blanks. -/
def written : List ι → List Member
  | [] => []
  | [i] => [style.member key json isValue style.close i]
  | i :: j :: is => style.member key json isValue .none i :: written (j :: is)

theorem written_ne_nil (i : ι) (is : List ι) : style.written key json isValue (i :: is) ≠ [] := by
  cases is <;> exact List.cons_ne_nil _ _

theorem insideText_written (i : ι) (is : List ι) :
    insideText (style.written key json isValue (i :: is)) =
      style.members ((i :: is).map fun i => (key i, json i)) ++ style.close.1 := by
  induction is generalizing i with
  | nil =>
    simp [written, insideText, tailText, member, Member.text, style.members_one, writeString,
      Gap.none]
  | cons j is ih =>
    have later : tailText (style.written key json isValue (j :: is)) =
        ',' :: insideText (style.written key json isValue (j :: is)) := by
      obtain ⟨m, ms, shape⟩ :=
        List.exists_cons_of_ne_nil (style.written_ne_nil key json isValue j is)
      rw [shape, tailText_cons, insideText]
    have first : (style.member key json isValue .none i).text =
        style.before.1 ++ writeString (key i) ++ ':' :: style.lead.1 ++ style.value (json i) := by
      simp [member, Member.text, writeString, Gap.none]
    rw [written, insideText, later, ih, first]
    simp only [List.map_cons]
    rw [style.members_more]
    simp

/-- **What is written for an object is the text of its members.** -/
theorem text_object (i : ι) (is : List ι) :
    (ObjectText.mk .none (style.written key json isValue (i :: is))).text =
      style.object ((i :: is).map fun i => (key i, json i)) := by
  rw [ObjectText.text, insideText_written, object]
  simp [Gap.none]

/-- The keys and values of what is written. -/
theorem map_written (is : List ι) :
    (style.written key json isValue is).map (fun m => (m.key, m.value)) =
      is.map fun i => (key i, style.value (json i)) := by
  induction is with
  | nil => rfl
  | cons i is ih =>
    cases is with
    | nil => rfl
    | cons j is =>
      rw [written, List.map_cons, ih]
      rfl

end Members

end Style

end Duet.Json
