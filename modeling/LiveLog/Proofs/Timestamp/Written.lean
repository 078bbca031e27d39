import LiveLog.Proofs.Timestamp.Digits
import Mathlib.Tactic.IntervalCases

/-! Timestamps as log servers write them: a date, a time of day to the second, perhaps a fraction of any
length, perhaps an offset. The time of day comes out as it was written, with one digit of the fraction. An
offset is read only to see that it is one, and neither it nor the date moves the time. -/
namespace LiveLog.Timestamp

/-- The fraction of a second: the digits after a point, at least one. -/
structure Fraction where
  first : Char
  further : List Char
  all_digits : Digits (first :: further) := by decide

/-- What a timestamp says about its offset. -/
inductive Zone where
  | unstated
  | utc
  | offset (ahead : Bool) (hours : Field 2 23) (minutes : Field 2 59)

/-- The lengths of the months of a year. -/
def monthLengths (year : Nat) : List Nat :=
  [31, if year % 400 = 0 ∨ year % 4 = 0 ∧ year % 100 ≠ 0 then 29 else 28, 31, 30, 31, 30, 31, 31, 30,
    31, 30, 31]

/-- A timestamp with a date of the calendar. -/
structure Written where
  year : Field 4 9999
  month : Field 2 12
  day : Field 2 31
  month_pos : 1 ≤ month.value := by decide
  day_pos : 1 ≤ day.value := by decide
  day_le : day.value ≤ (monthLengths year.value).getD (month.value - 1) 0 := by decide
  hour : Field 2 23
  minute : Field 2 59
  second : Field 2 59
  fraction : Option Fraction
  zone : Zone

/-- The written form of an offset. -/
def Zone.chars : Zone → List Char
  | .unstated => []
  | .utc => ['Z']
  | .offset ahead hours minutes =>
    (if ahead then '+' else '-') :: hours.digits ++ ':' :: minutes.digits

namespace Written

/-- Hours, minutes and seconds, as they are written. -/
def clock (written : Written) : List Char :=
  written.hour.digits ++ ':' :: written.minute.digits ++ ':' :: written.second.digits

/-- The point and the digits after it, if there are any. -/
def fractionChars (written : Written) : List Char :=
  match written.fraction with
  | none => []
  | some fraction => '.' :: fraction.first :: fraction.further

/-- The digit of the tenths. -/
def tenth (written : Written) : Char :=
  match written.fraction with
  | none => '0'
  | some fraction => fraction.first

/-- The timestamp as a text. -/
def text (written : Written) : String :=
  String.ofList (written.year.digits ++ '-' :: written.month.digits ++ '-' :: written.day.digits ++
    'T' :: written.clock ++ written.fractionChars ++ written.zone.chars)

end Written

/-! ### The date -/

theorem isLeap_iff (year : Nat) :
    isLeap year = true ↔ year % 400 = 0 ∨ year % 4 = 0 ∧ year % 100 ≠ 0 := by
  simp only [isLeap, Bool.and_eq_true, Bool.or_eq_true, decide_eq_true_eq]
  omega

theorem daysInMonth_eq (year : Nat) {month : Nat} (positive : 1 ≤ month) (small : month ≤ 12) :
    daysInMonth year month = (monthLengths year).getD (month - 1) 0 := by
  simp only [daysInMonth, isLeap_iff]
  interval_cases month <;> rfl

/-! ### The parts behind the second -/

theorem Zone.stops (zone : Zone) : NoDigitFirst zone.chars := by
  cases zone with
  | unstated => exact noDigitFirst_nil
  | utc => exact noDigitFirst_cons rfl
  | offset ahead hours minutes => cases ahead <;> exact noDigitFirst_cons rfl

/-- An offset that is stated is read to its end. -/
theorem offset?_offset (ahead : Bool) (hours : Field 2 23) (minutes : Field 2 59) :
    offset? (Zone.offset ahead hours minutes).chars = some [] := by
  have last : number? 2 2 (minutes.digits ++ []) = some (minutes.value, []) :=
    number?_field minutes (Nat.le_refl 2)
  rw [List.append_nil] at last
  have early : hours.value ≤ 23 := hours.value_le
  have within : minutes.value ≤ 59 := minutes.value_le
  cases ahead <;>
    simp [Zone.chars, offset?, offsetSign?, number?_field, literal?_cons, last, early, within]

namespace Written

variable (written : Written)

/-- The fraction is read up to the offset, and its first digit gives the tenths. -/
theorem fraction?_written :
    ∃ n, fraction? (written.fractionChars ++ written.zone.chars) = some (n, written.zone.chars) ∧
      digitChar (n / 100000000) = written.tenth := by
  cases present : written.fraction with
  | none =>
    refine ⟨0, ?_, ?_⟩
    · rw [fractionChars, present]
      cases written.zone with
      | unstated => rfl
      | utc => rfl
      | offset ahead hours minutes => cases ahead <;> rfl
    · rw [tenth, present]
      rfl
  | some fraction =>
    obtain ⟨n, read, tenths⟩ := nanoseconds?_digits fraction.all_digits written.zone.stops
    refine ⟨n, ?_, ?_⟩
    · rw [fractionChars, present]
      exact read
    · rw [tenths, tenth, present]
      exact digitChar_value (fraction.all_digits _ List.mem_cons_self)

/-! ### The whole timestamp -/

/-- The fields of a timestamp, with a given number of nanoseconds. -/
def civil (nanosecond : Nat) : Civil :=
  ⟨written.year.value, written.month.value, written.day.value, written.hour.value,
    written.minute.value, written.second.value, nanosecond⟩

/-- A date of the calendar is taken for one. -/
theorem civil_isValid (nanosecond : Nat) : (written.civil nanosecond).isValid = true := by
  have year : written.year.value ≤ 9999 := written.year.value_le
  have day := written.day_le
  rw [← daysInMonth_eq _ written.month_pos written.month.value_le] at day
  have second : written.second.value ≤ 59 := written.second.value_le
  have known : firstYear ≤ written.year.value ∧ (written.year.value : Int) ≤ lastYear := by
    rw [firstYear, lastYear]
    omega
  exact (Civil.isValid_iff _).mpr ⟨known, ⟨written.month_pos, written.month.value_le⟩,
    ⟨written.day_pos, day⟩, written.hour.value_le, written.minute.value_le, second.trans (by decide)⟩

/-- What was read is handed to the readers that follow. -/
private theorem bind_of_read {α β : Type} {reading : Option α} {a : α} {next : α → Option β}
    (read : reading = some a) : (reading >>= next) = next a := by
  rw [read]
  rfl

/-- Date and time, with what follows the second. -/
def charsBefore (rest : List Char) : List Char :=
  written.year.digits ++ '-' :: (written.month.digits ++ '-' :: (written.day.digits ++ 'T' ::
    (written.hour.digits ++ ':' :: (written.minute.digits ++ ':' :: (written.second.digits ++ rest)))))

theorem text_eq :
    written.text.toList = written.charsBefore (written.fractionChars ++ written.zone.chars) := by
  simp only [text, clock, charsBefore, String.toList_ofList, List.append_assoc, List.cons_append]

variable {written}
variable {n : Nat} {tail rest : List Char}

/-- The strict reader takes all fields and asks for an offset behind them. -/
theorem internet?_written (fraction : fraction? tail = some (n, rest)) :
    internet? (written.charsBefore tail) =
      (offset? rest).bind fun rest => if rest.isEmpty then some (written.civil n) else none := by
  refine (bind_of_read (number?_field written.year (Nat.le_refl 4))).trans ?_
  refine (bind_of_read (literal?_cons _ _)).trans ?_
  refine (bind_of_read (number?_field written.month (Nat.le_refl 2))).trans ?_
  refine (bind_of_read (literal?_cons _ _)).trans ?_
  refine (bind_of_read (number?_field written.day (Nat.le_refl 2))).trans ?_
  refine (bind_of_read rfl).trans ?_
  refine (bind_of_read (number?_field written.hour (Nat.le_refl 2))).trans ?_
  refine (bind_of_read (literal?_cons _ _)).trans ?_
  refine (bind_of_read (number?_field written.minute (Nat.le_refl 2))).trans ?_
  refine (bind_of_read (literal?_cons _ _)).trans ?_
  refine (bind_of_read (number?_field written.second (Nat.le_refl 2))).trans ?_
  refine (bind_of_read fraction).trans ?_
  have valid := written.civil_isValid n
  rw [civil] at valid
  simp only [valid, Bool.and_true, civil]
  rfl

/-- The lenient reader takes all fields and asks for the end behind them. -/
theorem joined_written (fraction : fraction? tail = some (n, rest)) :
    joined.civil? (written.charsBefore tail) =
      if rest.isEmpty then some (written.civil n) else none := by
  have valid := written.civil_isValid n
  rw [civil] at valid
  simp [Pattern.civil?, joined, datePieces, timePieces, Pattern.read?, Piece.read?, charsBefore,
    year?_field, field?_field, literal?_cons, fraction, valid, civil]

theorem civil?_written : ∃ n, civil? written.text.toList = some (written.civil n) ∧
    digitChar (n / 100000000) = written.tenth := by
  obtain ⟨n, fraction, tenths⟩ := written.fraction?_written
  refine ⟨n, ?_, tenths⟩
  rw [civil?, text_eq, internet?_written fraction, joined_written fraction]
  cases written.zone with
  | unstated => rfl
  | utc => rfl
  | offset ahead hours minutes =>
    rw [offset?_offset]
    rfl

end Written

/-- A timestamp is reduced to hours, minutes and seconds as they are written, and the first digit of the
fraction, or zero where there is none. Further digits do not round it, and an offset does not move it. -/
theorem timeOfDay_written (written : Written) :
    timeOfDay written.text = String.ofList (written.clock ++ ['.', written.tenth]) := by
  obtain ⟨n, read, tenths⟩ := written.civil?_written
  have second : written.second.value ≤ 59 := written.second.value_le
  have ordinary : written.second.value ≠ 60 := by omega
  rw [timeOfDay, read]
  simp [Civil.timeOfDay, Written.civil, Civil.tenths, ordinary, twoDigits_value, tenths, Written.clock]

/-- The last second of a leap day, with a fraction finer than nanoseconds, fourteen hours ahead. -/
theorem timeOfDay_end_of_leap_day :
    let written : Written := {
      year := { digits := ['2', '0', '2', '4'] }, month := { digits := ['0', '2'] }
      day := { digits := ['2', '9'] }, hour := { digits := ['2', '3'] }
      minute := { digits := ['5', '9'] }, second := { digits := ['5', '9'] }
      fraction := some { first := '9', further := "99999999999".toList }
      zone := .offset true { digits := ['1', '4'] } { digits := ['0', '0'] } }
    written.text = "2024-02-29T23:59:59.999999999999+14:00" ∧
      timeOfDay written.text = "23:59:59.9" := by
  intro written
  have clock : String.ofList (written.clock ++ ['.', written.tenth]) = "23:59:59.9" := by decide +kernel
  exact ⟨by decide +kernel, (timeOfDay_written written).trans clock⟩

end LiveLog.Timestamp
