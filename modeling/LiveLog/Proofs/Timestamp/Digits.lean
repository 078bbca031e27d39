import LiveLog.Proofs.Text.Decimal
import LiveLog.Timestamp
import Mathlib.Data.List.TakeWhile

/-! Digits in a timestamp: how far a number is read, and what it is worth. A field of fixed width is read
whole by every reader that allows for its width, whether or not that reader also takes shorter fields and
white space in front of them. -/
namespace LiveLog.Timestamp

/-- A text of decimal digits. -/
def Digits (text : List Char) : Prop :=
  ∀ c ∈ text, c.isDigit = true

instance (text : List Char) : Decidable (Digits text) :=
  List.decidableBAll (fun c : Char => c.isDigit = true) text

/-- A text that continues no number. -/
def NoDigitFirst (text : List Char) : Prop :=
  ∀ c, text.head? = some c → c.isDigit = false

/-- The written form of a number: `width` digits, and a value in base ten of at most `most`. -/
structure Field (width most : Nat) where
  digits : List Char
  length_digits : digits.length = width := by decide
  all_digits : Digits digits := by decide
  value_le : Nat.ofDigitChars 10 digits 0 ≤ most := by decide

/-- The number a field writes. -/
def Field.value {width most : Nat} (field : Field width most) : Nat :=
  Nat.ofDigitChars 10 field.digits 0

variable {digits rest : List Char}

/-! ### What digits are worth -/

theorem digit_le (c : Char) (digit : c.isDigit = true) : c.toNat - '0'.toNat ≤ 9 := by
  have high : c.toNat ≤ '9'.toNat := ((Text.isDigit_iff c).mp digit).2
  exact Nat.sub_le_sub_right high _

/-- Digits have no larger value than their number allows. -/
theorem value_lt (all : Digits digits) : Nat.ofDigitChars 10 digits 0 < 10 ^ digits.length := by
  induction digits with
  | nil => decide
  | cons c digits ih =>
    have first := digit_le c (all c List.mem_cons_self)
    have others := ih fun d member => all d (List.mem_cons_of_mem _ member)
    have scaled := Nat.mul_le_mul_left (10 ^ digits.length) first
    rw [Nat.ofDigitChars_cons, Nat.ofDigitChars_eq_ofDigitChars_zero, Nat.mul_zero, Nat.zero_add,
      List.length_cons, Nat.pow_succ]
    omega

/-- A digit is the digit of its own value. -/
theorem digitChar_value {c : Char} (digit : c.isDigit = true) :
    digitChar (c.toNat - '0'.toNat) = c := by
  have low : '0'.toNat ≤ c.toNat := ((Text.isDigit_iff c).mp digit).1
  rw [digitChar, Nat.add_sub_cancel' low, Char.ofNat_toNat]

theorem isDigit_digitChar {n : Nat} (small : n < 10) : (digitChar n).isDigit = true := by
  have each : ∀ n < 10, (digitChar n).isDigit = true := by decide
  exact each n small

theorem value_digitChar {n : Nat} (small : n < 10) : (digitChar n).toNat - '0'.toNat = n := by
  have each : ∀ n < 10, (digitChar n).toNat - '0'.toNat = n := by decide
  exact each n small

theorem value_pair (tens ones : Char) :
    Nat.ofDigitChars 10 [tens, ones] 0 =
      10 * (tens.toNat - '0'.toNat) + (ones.toNat - '0'.toNat) := by
  rw [Nat.ofDigitChars_cons, Nat.ofDigitChars_cons, Nat.ofDigitChars_nil, Nat.mul_zero, Nat.zero_add]

/-- Two digits are written again as they were read. -/
theorem twoDigits_value {most : Nat} (field : Field 2 most) :
    twoDigits field.value = field.digits := by
  obtain ⟨tens, ones, pair⟩ : ∃ tens ones, field.digits = [tens, ones] := by
    have length := field.length_digits
    match field.digits, length with
    | [tens, ones], _ => exact ⟨tens, ones, rfl⟩
  have ten := field.all_digits tens (by simp [pair])
  have one := field.all_digits ones (by simp [pair])
  have small := digit_le ones one
  have high : (10 * (tens.toNat - '0'.toNat) + (ones.toNat - '0'.toNat)) / 10 =
      tens.toNat - '0'.toNat := by omega
  have low : (10 * (tens.toNat - '0'.toNat) + (ones.toNat - '0'.toNat)) % 10 =
      ones.toNat - '0'.toNat := by omega
  rw [Field.value, pair, value_pair, twoDigits, high, low, digitChar_value ten, digitChar_value one]

/-- A number below a hundred is written as a field. -/
theorem exists_field_twoDigits {n most : Nat} (small : n ≤ most) (short : n < 100) :
    ∃ field : Field 2 most, field.digits = twoDigits n := by
  have high : n / 10 < 10 := by omega
  have low : n % 10 < 10 := by omega
  have all : Digits (twoDigits n) := by
    simp [Digits, twoDigits, isDigit_digitChar high, isDigit_digitChar low]
  have value : Nat.ofDigitChars 10 (twoDigits n) 0 = n := by
    rw [twoDigits, value_pair, value_digitChar high, value_digitChar low]
    omega
  exact ⟨⟨twoDigits n, rfl, all, value.trans_le small⟩, rfl⟩

theorem exists_field_digit {n : Nat} (small : n ≤ 9) :
    ∃ field : Field 1 9, field.digits = [digitChar n] := by
  have below : n < 10 := Nat.lt_succ_of_le small
  have all : Digits [digitChar n] := by simp [Digits, isDigit_digitChar below]
  have value : Nat.ofDigitChars 10 [digitChar n] 0 = n := by
    rw [Nat.ofDigitChars_cons, Nat.ofDigitChars_nil, Nat.mul_zero, Nat.zero_add, value_digitChar below]
  exact ⟨⟨[digitChar n], rfl, all, value.trans_le small⟩, rfl⟩

/-! ### How far digits are read -/

theorem noDigitFirst_nil : NoDigitFirst [] := by
  intro c first
  cases first

theorem noDigitFirst_cons {c : Char} (other : c.isDigit = false) : NoDigitFirst (c :: rest) := by
  intro d first
  cases first
  exact other

/-- Digits are read up to their end, where the reader has enough of them or the text goes on otherwise. -/
theorem leadingDigits_append {most : Nat} (all : Digits digits) (within : digits.length ≤ most)
    (stops : digits.length = most ∨ NoDigitFirst rest) :
    leadingDigits most (digits ++ rest) = digits := by
  have behind : (rest.take (most - digits.length)).takeWhile Char.isDigit = [] := by
    rcases stops with full | stops
    · rw [full, Nat.sub_self, List.take_zero, List.takeWhile_nil]
    · cases rest with
      | nil => rw [List.take_nil, List.takeWhile_nil]
      | cons c rest =>
        cases most - digits.length with
        | zero => rw [List.take_zero, List.takeWhile_nil]
        | succ room =>
          rw [List.take_succ_cons, List.takeWhile_cons_of_neg]
          rw [stops c rfl]
          exact Bool.false_ne_true
  rw [leadingDigits, List.take_append, List.take_of_length_le within,
    List.takeWhile_append_of_pos all, behind, List.append_nil]

theorem literal?_cons (c : Char) (rest : List Char) : literal? c (c :: rest) = some rest := by
  rw [literal?, if_pos rfl]

theorem number?_digits {least most : Nat} (all : Digits digits) (enough : least ≤ digits.length)
    (within : digits.length ≤ most) (stops : digits.length = most ∨ NoDigitFirst rest) :
    number? least most (digits ++ rest) = some (Nat.ofDigitChars 10 digits 0, rest) := by
  have read := leadingDigits_append all within stops
  rw [number?, read, if_neg (Nat.not_lt.mpr enough), List.drop_left, Text.decimalValue_eq]

/-- A field is read by every reader that takes numbers of its width and none longer. -/
theorem number?_field {least width most : Nat} (field : Field width most) (enough : least ≤ width) :
    number? least width (field.digits ++ rest) = some (field.value, rest) := by
  have length := field.length_digits
  exact number?_digits field.all_digits (enough.trans_eq length.symm) length.le (.inl length)

/-- White space is looked for in vain in front of digits. -/
theorem trimStart_digits (some_ : digits ≠ []) (all : Digits digits) :
    Text.trimStart (digits ++ rest) = digits ++ rest := by
  obtain ⟨c, others, rfl⟩ := List.exists_cons_of_ne_nil some_
  have digit := all c List.mem_cons_self
  rw [Text.trimStart, List.cons_append, List.dropWhile_cons_of_neg]
  rw [Text.isBlank_of_isDigit digit]
  exact Bool.false_ne_true

theorem Field.digits_ne_nil {width most : Nat} (field : Field (width + 1) most) :
    field.digits ≠ [] :=
  List.ne_nil_of_length_eq_add_one field.length_digits

/-- A lenient reader takes a field of two digits for what it is. -/
theorem field?_field {most : Nat} (field : Field 2 most) :
    field? (field.digits ++ rest) = some (field.value, rest) := by
  rw [field?, trimStart_digits field.digits_ne_nil field.all_digits, number?_field field (by decide)]

/-- A lenient reader takes up to four digits for a year without a sign. -/
theorem year?_digits (some_ : digits ≠ []) (all : Digits digits) (within : digits.length ≤ 4)
    (stops : digits.length = 4 ∨ NoDigitFirst rest) :
    year? (digits ++ rest) = some ((Nat.ofDigitChars 10 digits 0 : Int), rest) := by
  have unsigned {sign : Char} {others : List Char} (signed : digits ++ rest = sign :: others) :
      sign.isDigit = true := by
    obtain ⟨first, digits, rfl⟩ := List.exists_cons_of_ne_nil some_
    rw [List.cons_append, List.cons.injEq] at signed
    exact signed.1 ▸ all first List.mem_cons_self
  unfold year?
  rw [trimStart_digits some_ all]
  split
  · rename_i signed
    exact absurd (unsigned signed) (by decide)
  · rename_i signed
    exact absurd (unsigned signed) (by decide)
  · rw [number?_digits all (List.length_pos_iff.mpr some_) within stops, Option.map_some]

theorem year?_field {most : Nat} (field : Field 4 most) :
    year? (field.digits ++ rest) = some ((field.value : Int), rest) :=
  year?_digits field.digits_ne_nil field.all_digits field.length_digits.le (.inl field.length_digits)

/-! ### Fractions of a second -/

theorem dropWhile_digits (all : Digits digits) (stops : NoDigitFirst rest) :
    (digits ++ rest).dropWhile Char.isDigit = rest := by
  rw [List.dropWhile_append_of_pos all]
  cases rest with
  | nil => rfl
  | cons c rest =>
    rw [List.dropWhile_cons_of_neg]
    rw [stops c rfl]
    exact Bool.false_ne_true

/-- Missing decimal places count as zeros. -/
theorem digits_padded (all : Digits digits) (places : Nat) :
    Digits (digits ++ List.replicate places '0') := by
  intro c member
  rcases List.mem_append.mp member with digit | zero
  · exact all c digit
  · rw [List.eq_of_mem_replicate zero]
    rfl

/-- Dividing by the places of the other digits leaves the first one. -/
theorem value_cons_div (first : Char) (all : Digits digits) :
    Nat.ofDigitChars 10 (first :: digits) 0 / 10 ^ digits.length = first.toNat - '0'.toNat := by
  rw [Nat.ofDigitChars_cons, Nat.ofDigitChars_eq_ofDigitChars_zero, Nat.mul_zero, Nat.zero_add,
    Nat.mul_add_div (Nat.pow_pos (by decide)), Nat.div_eq_of_lt (value_lt all), Nat.add_zero]

/-- A fraction comes to less than a second, however many digits it has. -/
theorem nanoseconds?_lt {text : List Char} {n : Nat} (read : nanoseconds? text = some (n, rest)) :
    n < 1000000000 := by
  have all : Digits (leadingDigits 9 text) := fun c member => List.mem_takeWhile_imp member
  have few : (leadingDigits 9 text).length ≤ 9 :=
    (List.takeWhile_prefix _).length_le.trans (List.length_take_le _ _)
  have bound := value_lt (digits_padded all (9 - (leadingDigits 9 text).length))
  rw [List.length_append, List.length_replicate, Nat.add_sub_cancel' few] at bound
  simp only [nanoseconds?, Text.decimalValue_eq] at read
  split at read
  · cases read
  · cases read
    exact bound

theorem fraction?_lt {text : List Char} {n : Nat} (read : fraction? text = some (n, rest)) :
    n < 1000000000 := by
  unfold fraction? at read
  split at read
  · exact nanoseconds?_lt read
  · cases read
    decide

/-- Nine digits count and those behind them are passed over. -/
theorem nanoseconds?_append {passed : List Char} (some_ : digits ≠ []) (all : Digits digits)
    (within : digits.length ≤ 9) (further : Digits passed) (full : digits.length = 9 ∨ passed = [])
    (stops : NoDigitFirst rest) :
    nanoseconds? (digits ++ (passed ++ rest)) =
      some (Nat.ofDigitChars 10 (digits ++ List.replicate (9 - digits.length) '0') 0, rest) := by
  have read : leadingDigits 9 (digits ++ (passed ++ rest)) = digits := by
    refine leadingDigits_append all within (full.imp_right ?_)
    rintro rfl
    exact stops
  have filled : ¬ digits.isEmpty = true := mt List.isEmpty_iff.mp some_
  rw [nanoseconds?, read, if_neg filled, List.drop_left, dropWhile_digits further stops,
    Text.decimalValue_eq]

/-- Of the digits after the point the first one gives the tenths; all are passed over. -/
theorem nanoseconds?_digits {first : Char} {further : List Char} (all : Digits (first :: further))
    (stops : NoDigitFirst rest) :
    ∃ n, nanoseconds? (first :: further ++ rest) = some (n, rest) ∧
      n / 100000000 = first.toNat - '0'.toNat := by
  have near : Digits (further.take 8) := fun c member =>
    all c (List.mem_cons_of_mem first (List.mem_of_mem_take member))
  have far : Digits (further.drop 8) := fun c member =>
    all c (List.mem_cons_of_mem first (List.mem_of_mem_drop member))
  have counted : Digits (first :: further.take 8) :=
    List.forall_mem_cons.mpr ⟨all first List.mem_cons_self, near⟩
  have within : (first :: further.take 8).length ≤ 9 := Nat.succ_le_succ (List.length_take_le 8 further)
  have full : (first :: further.take 8).length = 9 ∨ further.drop 8 = [] := by
    rcases Nat.le_total 8 further.length with long | short
    · exact .inl (congrArg (· + 1) (List.length_take_of_le long))
    · exact .inr (List.drop_of_length_le short)
  have parted : first :: further ++ rest = first :: further.take 8 ++ (further.drop 8 ++ rest) := by
    rw [List.cons_append, List.cons_append, ← List.append_assoc, List.take_append_drop]
  refine ⟨_, parted ▸ nanoseconds?_append (List.cons_ne_nil _ _) counted within far full stops, ?_⟩
  have eight : (further.take 8 ++
      List.replicate (9 - (first :: further.take 8).length) '0').length = 8 := by
    have short := List.length_take_le 8 further
    rw [List.length_append, List.length_replicate, List.length_cons]
    omega
  have tenths := value_cons_div first (digits_padded near (9 - (first :: further.take 8).length))
  rwa [eight] at tenths

end LiveLog.Timestamp
