import LiveLog.Text.Basic
import Mathlib.Data.Nat.Digits.Defs

/-! What is read as a 64-bit word, and that every word is read back from its decimal digits. -/
namespace LiveLog.Text

/-- The written forms of a 64-bit word: ASCII digits, at least one, after an optional plus sign, whose
value in base ten fits. Leading zeros are allowed. -/
def Numeral (text : List Char) : Prop :=
  ∃ digits, (text = digits ∨ text = '+' :: digits) ∧ digits ≠ [] ∧
    (∀ digit ∈ digits, '0' ≤ digit ∧ digit ≤ '9') ∧ Nat.ofDigitChars 10 digits 0 < 2 ^ 64

/-- The value of a digit string is its value in base ten. -/
theorem decimalValue_eq (digits : List Char) :
    decimalValue digits = Nat.ofDigitChars 10 digits 0 := by
  simp only [decimalValue, Nat.ofDigitChars_eq_foldl, Nat.mul_comm]

theorem isDigit_iff (c : Char) : c.isDigit = true ↔ '0' ≤ c ∧ c ≤ '9' := by
  rw [Char.isDigit, Bool.and_eq_true, decide_eq_true_eq, decide_eq_true_eq]
  exact Iff.rfl

/-- No digit is white space. -/
theorem isBlank_of_isDigit {c : Char} (digit : c.isDigit = true) : isBlank c = false := by
  simp only [Char.isDigit, ↓Char.isValue, Char.reduceVal, ge_iff_le, UInt32.le_iff_toNat_le,
    UInt32.reduceToNat, Char.toNat_val, Bool.and_eq_true, decide_eq_true_eq] at digit
  simp only [isBlank, ← Char.toNat_inj, Char.le_def, UInt32.le_iff_toNat_le, ↓Char.isValue,
    Char.reduceVal, Char.reduceToNat, UInt32.reduceToNat, Char.toNat_val, Bool.or_eq_false_iff,
    Bool.and_eq_false_imp, decide_eq_true_eq, decide_eq_false_iff_not]
  omega

/-- Digits are read with their value, as long as it fits. A digit string has no sign to take away. -/
theorem word?_of_digits {digits : List Char} (some_ : digits ≠ [])
    (all : ∀ digit ∈ digits, digit.isDigit = true) :
    word? digits =
      if decimalValue digits < UInt64.size then some (UInt64.ofNat (decimalValue digits))
      else none := by
  obtain ⟨first, rest, rfl⟩ := List.exists_cons_of_ne_nil some_
  have unsigned : first ≠ '+' := by
    rintro rfl
    exact absurd (all '+' List.mem_cons_self) (by decide)
  have digits : (first :: rest).all Char.isDigit = true := List.all_eq_true.mpr all
  simp [word?, unsigned, digits]

/-- A plus sign in front of digits changes nothing. -/
theorem word?_of_signed {digits : List Char} (some_ : digits ≠ [])
    (all : ∀ digit ∈ digits, digit.isDigit = true) : word? ('+' :: digits) = word? digits := by
  rw [word?_of_digits some_ all]
  have digits : digits.all Char.isDigit = true := List.all_eq_true.mpr all
  simp [word?, some_, digits]

/-- Digits are looked for behind the plus sign, if there is one. -/
private theorem word?_behind_sign (text : List Char) :
    ∃ digits, (text = digits ∨ text = '+' :: digits) ∧
      word? text =
        if !digits.isEmpty && digits.all Char.isDigit && decimalValue digits < UInt64.size then
          some (UInt64.ofNat (decimalValue digits))
        else none := by
  unfold word?
  split
  · rename_i rest
    exact ⟨rest, .inr rfl, rfl⟩
  · rename_i unsigned
    exact ⟨text, .inl rfl, rfl⟩

/-- Exactly the numerals are read. -/
theorem word?_isSome_iff (text : List Char) : (word? text).isSome = true ↔ Numeral text := by
  constructor
  · intro read
    obtain ⟨digits, written, looked⟩ := word?_behind_sign text
    rw [looked] at read
    split at read
    · rename_i accepted
      simp only [Bool.and_eq_true, Bool.not_eq_true', List.isEmpty_eq_false_iff, List.all_eq_true,
        decide_eq_true_eq] at accepted
      obtain ⟨⟨some_, all⟩, fits⟩ := accepted
      rw [decimalValue_eq] at fits
      exact ⟨digits, written, some_, fun digit member => (isDigit_iff digit).mp (all digit member), fits⟩
    · simp at read
  · rintro ⟨digits, written, some_, all, fits⟩
    have every : ∀ digit ∈ digits, digit.isDigit = true :=
      fun digit member => (isDigit_iff digit).mpr (all digit member)
    have read : word? text = word? digits := by
      rcases written with rfl | rfl
      · rfl
      · exact word?_of_signed some_ every
    have small : decimalValue digits < UInt64.size := by
      rw [decimalValue_eq]
      exact fits
    rw [read, word?_of_digits some_ every, if_pos small]
    rfl

theorem decimalChars_ne_nil (n : Nat) : decimalChars n ≠ [] := Nat.toDigits_ne_nil

theorem isDigit_of_mem_decimalChars {n : Nat} {c : Char} (member : c ∈ decimalChars n) :
    c.isDigit = true :=
  Nat.isDigit_of_mem_toDigits (by decide) (by decide) member

/-- Every word is read back from its digits. -/
theorem word?_decimalChars (n : UInt64) : word? (decimalChars n.toNat) = some n := by
  have value : decimalValue (decimalChars n.toNat) = n.toNat := by
    rw [decimalValue_eq]
    exact Nat.ofDigitChars_ten_toDigits
  rw [word?_of_digits (decimalChars_ne_nil _) fun _ => isDigit_of_mem_decimalChars, value,
    if_pos n.toNat_lt, UInt64.ofNat_toNat]

end LiveLog.Text
