import Duet.Proofs.Json.Brackets

/-!
# Lists as they are written

A list is written as elements between brackets, with commas between them and blanks wherever they
may stand. `Element` is an element as it is written, so a list that is no JSON cannot be built.

**An element is read as its value is read alone**, and the rest begins at the blanks after it
(`toOption_readElement`). Which elements a list has to have is for its reader to say.
-/

namespace Duet.Json

/-- An element of a list as it is written. -/
structure Element where
  value : List Char
  isValue : IsValue value
  before : Gap
  after : Gap

/-- The text of an element. -/
def Element.text (e : Element) : List Char :=
  e.before.1 ++ e.value ++ e.after.1

/-- The text of elements, `count` others standing in front of them. -/
def rowText : (count : Nat) → List Element → List Char
  | _, [] => []
  | count, e :: es => separator (count = 0) ++ e.text ++ rowText (count + 1) es

/-- The text of a list. -/
def listText (es : List Element) : List Char :=
  '[' :: rowText 0 es ++ [']']

theorem Element.entry (e : Element) : Derives (.entry .list) e.text :=
  .element e.before.2 e.isValue e.after.2

theorem entries_rowText {w : List Char} (first : Derives (.entry .list) w) (count : Nat)
    (es : List Element) : Derives (.entries .list) (w ++ rowText (count + 1) es) := by
  induction es generalizing w count with
  | nil =>
    rw [rowText, List.append_nil]
    exact .one first
  | cons e es ih => exact .more first (ih e.entry (count + 1))

/-- What is written as a list is a value. -/
theorem isValue_listText (es : List Element) : IsValue (listText es) := by
  cases es with
  | nil => exact Derives.empty .list Blanks.nil
  | cons e es => exact Derives.bracket (entries_rowText e.entry 0 es)

theorem detached_rowText (count : Nat) (es : List Element) (rest : List Char) :
    Detached (rowText (count + 1) es ++ ']' :: rest) := by
  cases es with
  | nil => exact .cons rest (by decide)
  | cons e es => exact detached_comma _

/-- **An element is read as its value alone**, whatever stands around it. -/
theorem toOption_readElement {α : Type} {read : Reader α} {Means : List Char → α → Prop}
    (recognizes : Recognizes read Means) (count : Nat) (expected : String) (b : Gap)
    (e : Element) {rest : List Char} (detached : Detached rest) :
    (readElement count expected read (b.1 ++ (separator (count = 0) ++ e.text ++ rest))).toOption =
      (readWhole read e.value).toOption.map (·, e.after.1 ++ rest) := by
  have ends := (Detached.blanks e.after.2 detached).endsBefore e.value
  have reached := toElement_append (count = 0) e.isValue b e.before (e.after.1 ++ rest)
  have alone := recognizes.toOption_read Blanks.nil e.isValue ends
  have shape : b.1 ++ (separator (count = 0) ++ e.text ++ rest) =
      b.1 ++ separator (count = 0) ++ e.before.1 ++ e.value ++ (e.after.1 ++ rest) := by
    simp [Element.text]
  rw [List.nil_append] at alone
  rw [shape, readElement, reached]
  show (placing (read (e.value ++ (e.after.1 ++ rest)))).toOption = _
  rw [toOption_placing, alone]

theorem readElement_iff {α : Type} {read : Reader α} {Means : List Char → α → Prop}
    (recognizes : Recognizes read Means) (count : Nat) (expected : String) (b : Gap)
    (e : Element) {rest r : List Char} (detached : Detached rest) {a : α} :
    readElement count expected read (b.1 ++ (separator (count = 0) ++ e.text ++ rest)) =
        .ok (a, r) ↔
      readWhole read e.value = .ok a ∧ r = e.after.1 ++ rest := by
  rw [← toOption_eq_some, toOption_readElement recognizes count expected b e detached,
    Option.map_eq_some_iff]
  constructor
  · rintro ⟨a', decoded, same⟩
    cases same
    exact ⟨toOption_eq_some.1 decoded, rfl⟩
  · rintro ⟨decoded, rfl⟩
    exact ⟨a, toOption_eq_some.2 decoded, rfl⟩

theorem readElement_map {α β : Type} {read : Reader α} {read' : Reader β}
    {g : α × List Char → β × List Char} (maps : ∀ text, read' text = (read text).map g)
    (count : Nat) (expected : String) (text : List Char) :
    readElement count expected read' text = (readElement count expected read text).map g := by
  unfold readElement
  cases toElement (count = 0) text with
  | error failure => rfl
  | ok reached =>
    obtain ⟨present, rest⟩ := reached
    cases present with
    | false => rfl
    | true =>
      show placing (read' rest) = (placing (read rest)).map g
      rw [maps]
      cases read rest <;> rfl

end Duet.Json
