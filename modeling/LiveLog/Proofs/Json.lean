import LiveLog.Json
import Mathlib.Data.List.Basic
import Mathlib.Data.Nat.Digits.Defs

/-! What is read of a JSON text. Of the members of an object with the same name the last one written counts, and
a member under another name is never looked at; and a written number is an integer of 64 bits exactly if its
value as a whole fits. -/
namespace LiveLog

namespace Json

variable {members : List (String × Json)} {name : String}

/-- An object has a value under a name: no member behind it has the same name. -/
def Holds (members : List (String × Json)) (name : String) (value : Json) : Prop :=
  ∃ before after, members = before ++ (name, value) :: after ∧ ∀ member ∈ after, member.1 ≠ name

/-- An object has no member of a name. -/
def Lacks (members : List (String × Json)) (name : String) : Prop :=
  ∀ member ∈ members, member.1 ≠ name

theorem member?_eq_some_iff {value : Json} :
    member? name members = some value ↔ Holds members name value := by
  rw [member?, List.lookup_eq_some_iff]
  constructor
  · rintro ⟨after, before, turned, others⟩
    refine ⟨before.reverse, after.reverse, ?_, ?_⟩
    · rw [← List.reverse_reverse members, turned]
      simp
    · intro member among
      exact (bne_iff_ne.mp (others member (List.mem_reverse.mp among))).symm
  · rintro ⟨before, after, rfl, others⟩
    refine ⟨after.reverse, before.reverse, by simp, ?_⟩
    intro member among
    exact bne_iff_ne.mpr (others member (List.mem_reverse.mp among)).symm

theorem member?_eq_none_iff : member? name members = none ↔ Lacks members name := by
  rw [member?, List.lookup_eq_none_iff]
  constructor
  · intro others member among
    exact (bne_iff_ne.mp (others member (List.mem_reverse.mpr among))).symm
  · intro others member among
    exact bne_iff_ne.mpr (others member (List.mem_reverse.mp among)).symm

private theorem lookup_cons_eq (name other : String) (value : Json) (rest : List (String × Json)) :
    List.lookup name ((other, value) :: rest) =
      if name = other then some value else List.lookup name rest := by
  by_cases same : name = other
  · rw [if_pos same, same, List.lookup_cons_self]
  · rw [if_neg same, List.lookup_cons, beq_false_of_ne same]

/-- A name is looked up among the members of some names as among all, if it is one of them. -/
theorem member?_filter {names : List String} (listed : name ∈ names) (members : List (String × Json)) :
    member? name (members.filter fun member => member.1 ∈ names) = member? name members := by
  rw [member?, member?, ← List.filter_reverse]
  induction members.reverse with
  | nil => rfl
  | cons member others ih =>
    obtain ⟨other, value⟩ := member
    rw [lookup_cons_eq, List.filter_cons]
    split
    · rw [lookup_cons_eq, ih]
    · rename_i unlisted
      have different : name ≠ other := by
        rintro rfl
        exact unlisted (decide_eq_true listed)
      rw [if_neg different, ih]

theorem text?_eq_some_iff {value : Json} {text : String} :
    text? value = some text ↔ value = .string text := by
  cases value <;> simp [text?]

/-- A value is an unsigned word exactly if it is the integer of that word. -/
theorem word?_eq_some_iff {value : Json} {n : UInt64} :
    word? value = some n ↔ value = .number (.integer n.toNat) := by
  constructor
  · intro read
    unfold word? at read
    split at read
    · rename_i integer
      obtain ⟨⟨positive, small⟩, same⟩ := Option.ite_none_right_eq_some.mp read
      cases same
      have fits : integer.toNat < UInt64.size := by omega
      rw [UInt64.toNat_ofNat_of_lt' fits, Int.toNat_of_nonneg positive]
    · cases read
  · rintro rfl
    have small : (n.toNat : Int) < UInt64.size := Int.ofNat_lt.mpr n.toNat_lt
    rw [word?, if_pos ⟨Int.natCast_nonneg _, small⟩, Int.toNat_natCast, UInt64.ofNat_toNat]

end Json

/-! ### Integers of 64 bits

The digits are gathered for as long as they fit, so that a literal is exact precisely if its value as a whole
fits; a fraction or an exponent makes a double of any literal, and so does a minus sign in front of zero. -/

namespace Number

variable {digits : List Char} {significand : Nat}

/-- Further digits make no number smaller. -/
theorem le_ofDigitChars (digits : List Char) (significand : Nat) :
    significand ≤ Nat.ofDigitChars 10 digits significand := by
  rw [Nat.ofDigitChars_eq_ofDigitChars_zero]
  have scaled := Nat.le_mul_of_pos_left significand (Nat.pow_pos (n := digits.length) (show 0 < 10 by decide))
  omega

theorem gathered_cons (digit : Char) (digits : List Char) (significand : Nat) :
    Nat.ofDigitChars 10 (digit :: digits) significand =
      Nat.ofDigitChars 10 digits (significand * 10 + digitValue digit) := by
  rw [Nat.ofDigitChars_cons, Nat.mul_comm, digitValue]

/-- Digits whose value fits are all gathered. -/
theorem gatherInteger_of_lt (fit : Nat.ofDigitChars 10 digits significand < UInt64.size) :
    gatherInteger significand digits = (⟨Nat.ofDigitChars 10 digits significand, 0⟩, true) := by
  induction digits generalizing significand with
  | nil => rfl
  | cons digit digits ih =>
    rw [gathered_cons] at fit ⊢
    have next : fits significand digit = true :=
      decide_eq_true ((le_ofDigitChars digits _).trans_lt fit)
    rw [gatherInteger, if_pos next, ih fit]

/-- Digits whose value does not fit are not. -/
theorem gatherInteger_of_le (start : significand < UInt64.size)
    (large : UInt64.size ≤ Nat.ofDigitChars 10 digits significand) :
    (gatherInteger significand digits).2 = false := by
  induction digits generalizing significand with
  | nil => exact absurd start (Nat.not_lt.mpr large)
  | cons digit digits ih =>
    rw [gathered_cons] at large
    rw [gatherInteger]
    split
    · rename_i next
      exact ih (of_decide_eq_true next) large
    · rfl

theorem ofDecimal?_ne_integer (negative : Bool) (decimal : Decimal) (value : Int) :
    ofDecimal? negative decimal ≠ some (.integer value) := by
  intro read
  obtain ⟨magnitude, -, same⟩ := Option.map_eq_some_iff.mp read
  cases same

/-- A negative literal is a negative integer or a double. -/
theorem ofWord_negative_ne (magnitude n : Nat) : ofWord true magnitude ≠ .integer n := by
  rw [ofWord, if_neg (by decide)]
  split
  · exact Number.noConfusion
  · rename_i counted
    intro same
    injection same with same
    simp only [Bool.or_eq_true, decide_eq_true_eq, not_or] at counted
    omega

/-- A literal without fraction and exponent is an integer if its value fits, and a double otherwise. -/
theorem ofParts?_plain (negative : Bool) (whole : List Char) :
    ofParts? negative whole none none =
      if Nat.ofDigitChars 10 whole 0 < UInt64.size then
        some (ofWord negative (Nat.ofDigitChars 10 whole 0))
      else ofDecimal? negative (gatherInteger 0 whole).1 := by
  by_cases fit : Nat.ofDigitChars 10 whole 0 < UInt64.size
  · rw [if_pos fit, ofParts?, gatherInteger_of_lt fit]
    rfl
  · have inexact := gatherInteger_of_le (by decide) (Nat.not_lt.mp fit)
    rw [if_neg fit, ofParts?]
    exact if_neg (Bool.eq_false_iff.mp inexact)

/-- A literal with a fraction or an exponent is no integer. -/
theorem ofParts?_scaled (negative : Bool) (whole : List Char) {fraction : Option (List Char)}
    {exponent : Option Int} (scaled : ¬ (fraction = none ∧ exponent = none)) (value : Int) :
    ofParts? negative whole fraction exponent ≠ some (.integer value) := by
  rw [ofParts?]
  split
  rename_i decimal exact gathered
  split
  · exact absurd ⟨rfl, rfl⟩ scaled
  · exact ofDecimal?_ne_integer _ _ value

/-- A literal is an unsigned word exactly if it is written without sign, fraction and exponent and its value
is that word. -/
theorem ofParts?_eq_word_iff (negative : Bool) (whole : List Char) (fraction : Option (List Char))
    (exponent : Option Int) (n : UInt64) :
    ofParts? negative whole fraction exponent = some (.integer n.toNat) ↔
      negative = false ∧ fraction = none ∧ exponent = none ∧ Nat.ofDigitChars 10 whole 0 = n.toNat := by
  by_cases plain : fraction = none ∧ exponent = none
  · obtain ⟨rfl, rfl⟩ := plain
    rw [ofParts?_plain]
    split
    · cases negative with
      | false => simp [ofWord]
      | true => simp [ofWord_negative_ne]
    · rename_i large
      have other : Nat.ofDigitChars 10 whole 0 ≠ n.toNat := fun same => large (same ▸ n.toNat_lt)
      simp [ofDecimal?_ne_integer, other]
  · constructor
    · intro read
      exact absurd read (ofParts?_scaled negative whole plain _)
    · rintro ⟨-, whole_, unscaled, -⟩
      exact absurd ⟨whole_, unscaled⟩ plain

end Number

end LiveLog
