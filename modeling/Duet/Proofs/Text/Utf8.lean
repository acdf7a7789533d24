import Duet.Text.Utf8
import Mathlib.Tactic.IntervalCases

/-!
# Encoding, then decoding

The bytes of a character take the decoder from between two characters to between two characters
and tell that character, however many bytes there are.

**A text is what its bytes decode to** (`Text.Utf8.decode_encode`).
-/

namespace Duet.Text.Utf8

theorem toNat_ofNat {n : Nat} (lt : n < 256) : (UInt8.ofNat n).toNat = n := by
  rw [UInt8.toNat_ofNat']
  exact Nat.mod_eq_of_lt lt

/-- A byte in the range of the next one: the character is told if it is the last, and the decoder
goes on if it is not. -/
theorem step_pending {missing bits n : Nat} {low high : UInt8} (le : low.toNat ≤ n)
    (ge : n ≤ high.toNat) :
    step (some ⟨missing, low, high, bits⟩) (UInt8.ofNat n) =
      if missing ≤ 1 then ([some (Char.ofNat (bits * 64 + n % 64))], none)
      else ([], some ⟨missing - 1, 0x80, 0xBF, bits * 64 + n % 64⟩) := by
  have lt : n < 256 := Nat.lt_of_le_of_lt ge high.toNat_lt
  have inRange : low ≤ UInt8.ofNat n ∧ UInt8.ofNat n ≤ high := by
    rw [UInt8.le_iff_toNat_le, UInt8.le_iff_toNat_le, toNat_ofNat lt]
    exact ⟨le, ge⟩
  simp only [step, inRange, toNat_ofNat lt, and_self, if_true]

/-- A byte that is neither the first nor the last of its character. -/
theorem decodeFrom_inner {missing bits n : Nat} {low high : UInt8} (le : low.toNat ≤ n)
    (ge : n ≤ high.toNat) (rest : List UInt8) :
    decodeFrom (some ⟨missing + 2, low, high, bits⟩) (UInt8.ofNat n :: rest) =
      decodeFrom (some ⟨missing + 1, 0x80, 0xBF, bits * 64 + n % 64⟩) rest := by
  simp [decodeFrom, step_pending le ge]

/-- The last byte of a character of several. -/
theorem decodeFrom_last (bits n : Nat) (rest : List UInt8) :
    decodeFrom (some ⟨1, 0x80, 0xBF, bits⟩) (UInt8.ofNat (n % 64 + 128) :: rest) =
      some (Char.ofNat (bits * 64 + n % 64)) :: decodeFrom none rest := by
  have le : (0x80 : UInt8).toNat ≤ n % 64 + 128 := Nat.le_add_left _ _
  have ge : n % 64 + 128 ≤ (0xBF : UInt8).toNat := by
    change n % 64 + 128 ≤ 191
    omega
  have bits : (n % 64 + 128) % 64 = n % 64 := by omega
  rw [decodeFrom, step_pending le ge, if_pos (Nat.le_refl 1), bits]
  rfl

/-- The first byte of a character of several. -/
theorem decodeFrom_lead {b : UInt8} {p : Pending} (isLead : lead b = ([], some p))
    (rest : List UInt8) : decodeFrom none (b :: rest) = decodeFrom (some p) rest := by
  simp [decodeFrom, step, isLead]

/-! ## First bytes -/

theorem lead_two {x : Nat} (low : 2 ≤ x) (lt : x < 32) :
    lead (UInt8.ofNat (x + 192)) = ([], some ⟨1, 0x80, 0xBF, x⟩) := by
  interval_cases x <;> rfl

theorem lead_three {x : Nat} (lt : x < 16) :
    lead (UInt8.ofNat (x + 224)) =
      ([], some ⟨2, if x = 0 then 0xA0 else 0x80, if x = 13 then 0x9F else 0xBF, x⟩) := by
  interval_cases x <;> rfl

theorem lead_four {x : Nat} (lt : x < 5) :
    lead (UInt8.ofNat (x + 240)) =
      ([], some ⟨3, if x = 0 then 0x90 else 0x80, if x = 4 then 0x8F else 0xBF, x⟩) := by
  interval_cases x <;> rfl

/-! ## Characters -/

/-- **The bytes of one character** decode to it and leave the decoder between two characters. -/
theorem decodeFrom_char (c : Char) (rest : List UInt8) :
    decodeFrom none (String.utf8EncodeChar c ++ rest) = some c :: decodeFrom none rest := by
  obtain ⟨v, isV⟩ : ∃ v, c.toNat = v := ⟨_, rfl⟩
  have value : Char.ofNat v = c := by rw [← isV, Char.ofNat_toNat]
  have valid : v < 0xD800 ∨ 0xDFFF < v ∧ v < 0x110000 := isV ▸ c.valid
  have same : c.val.toNat = v := isV
  simp only [String.utf8EncodeChar, same]
  -- The four lengths; in each, the bits that were read add up to the character.
  split
  · have lt : v < 128 := by omega
    simp [decodeFrom, step, lead, toNat_ofNat (Nat.lt_trans lt (by decide)), lt, value]
  split
  · have bits : v / 64 % 32 * 64 + v % 64 = v := by omega
    rw [List.cons_append, List.cons_append, List.nil_append,
      decodeFrom_lead (lead_two (by omega) (by omega)), decodeFrom_last, bits, value]
  split
  · have le : (if v / 4096 % 16 = 0 then (0xA0 : UInt8) else 0x80).toNat ≤ v / 64 % 64 + 128 := by
      split
      · change 160 ≤ _
        omega
      · change 128 ≤ _
        omega
    have ge : v / 64 % 64 + 128 ≤ (if v / 4096 % 16 = 13 then (0x9F : UInt8) else 0xBF).toNat := by
      split
      · change _ ≤ 159
        omega
      · change _ ≤ 191
        omega
    have bits : (v / 4096 % 16 * 64 + (v / 64 % 64 + 128) % 64) * 64 + v % 64 = v := by omega
    rw [List.cons_append, List.cons_append, List.cons_append, List.nil_append,
      decodeFrom_lead (lead_three (by omega)), decodeFrom_inner le ge, decodeFrom_last, bits, value]
  · have le : (if v / 262144 % 8 = 0 then (0x90 : UInt8) else 0x80).toNat ≤
        v / 4096 % 64 + 128 := by
      split
      · change 144 ≤ _
        omega
      · change 128 ≤ _
        omega
    have ge : v / 4096 % 64 + 128 ≤
        (if v / 262144 % 8 = 4 then (0x8F : UInt8) else 0xBF).toNat := by
      split
      · change _ ≤ 143
        omega
      · change _ ≤ 191
        omega
    have le' : (0x80 : UInt8).toNat ≤ v / 64 % 64 + 128 := Nat.le_add_left _ _
    have ge' : v / 64 % 64 + 128 ≤ (0xBF : UInt8).toNat := by
      change _ ≤ 191
      omega
    have bits : ((v / 262144 % 8 * 64 + (v / 4096 % 64 + 128) % 64) * 64 +
        (v / 64 % 64 + 128) % 64) * 64 + v % 64 = v := by omega
    rw [List.cons_append, List.cons_append, List.cons_append, List.cons_append, List.nil_append,
      decodeFrom_lead (lead_four (by omega)), decodeFrom_inner le ge, decodeFrom_inner le' ge',
      decodeFrom_last, bits, value]

/-- **A text is what its bytes decode to**, with no mark. -/
theorem decode_encode (text : List Char) : decode (encode text) = text.map some := by
  induction text with
  | nil => rfl
  | cons c text ih =>
    have rest : decodeFrom none (encode text) = text.map some := ih
    rw [decode, encode, List.flatMap_cons, decodeFrom_char, List.map_cons, ← rest, encode]

/-- A decoded text has no mark exactly if it is that of some characters. -/
theorem whole?_eq_some {decoded : List (Option Char)} {text : List Char} :
    whole? decoded = some text ↔ decoded = text.map some := by
  induction decoded generalizing text with
  | nil => cases text <;> simp [whole?]
  | cons c decoded ih =>
    have rest {text : List Char} : decoded.mapM id = some text ↔ decoded = text.map some := ih
    cases c with
    | none => cases text <;> simp [whole?]
    | some c =>
      cases text with
      | nil => simp [whole?, Option.bind_eq_some_iff]
      | cons d text => simp [whole?, Option.bind_eq_some_iff, rest, and_comm]

theorem whole?_decode_encode (text : List Char) : whole? (decode (encode text)) = some text :=
  whole?_eq_some.2 (decode_encode text)

end Duet.Text.Utf8
