import LiveLog.Text.Basic

/-! The time of day of a timestamp, as it was written and cut to tenths of a second. Timestamps of the internet
profile are tried first, then two lenient patterns. -/
namespace LiveLog.Timestamp

/-! ### Dates and times of day, gathered field by field

A field that was read is checked against its own range at once; the date as a whole is checked against the
calendar at the end. -/

/-- The fields of a timestamp. Second 60 is a leap second. -/
structure Civil where
  year : Int
  month : Nat
  day : Nat
  hour : Nat
  minute : Nat
  second : Nat
  nanosecond : Nat
  deriving DecidableEq, Repr, Inhabited

/-- The leap years of the proleptic Gregorian calendar. -/
def isLeap (year : Int) : Bool :=
  year % 4 = 0 && (year % 100 ≠ 0 || year % 400 = 0)

/-- The length of a month. -/
def daysInMonth (year : Int) (month : Nat) : Nat :=
  if month = 2 then (if isLeap year then 29 else 28)
  else if month = 4 || month = 6 || month = 9 || month = 11 then 30
  else 31

/-- The years the calendar covers. -/
def firstYear : Int := -262143

/-- The last year the calendar covers. -/
def lastYear : Int := 262142

/-- Whether all fields lie in their ranges and the date is one of the calendar. -/
def Civil.isValid (t : Civil) : Bool :=
  firstYear ≤ t.year && t.year ≤ lastYear &&
  1 ≤ t.month && t.month ≤ 12 && 1 ≤ t.day && t.day ≤ daysInMonth t.year t.month &&
  t.hour ≤ 23 && t.minute ≤ 59 && t.second ≤ 60

theorem Civil.isValid_iff (t : Civil) :
    t.isValid = true ↔ (firstYear ≤ t.year ∧ t.year ≤ lastYear) ∧ (1 ≤ t.month ∧ t.month ≤ 12) ∧
      (1 ≤ t.day ∧ t.day ≤ daysInMonth t.year t.month) ∧
      t.hour ≤ 23 ∧ t.minute ≤ 59 ∧ t.second ≤ 60 := by
  simp only [Civil.isValid, Bool.and_eq_true, decide_eq_true_eq, and_assoc]

/-! ### Pieces of a timestamp, read from the front of a text

Every reader gives what it read and the text after it, or nothing when the piece is not there. -/

/-- The digits at the front of a text, at most `most` of them. -/
def leadingDigits (most : Nat) (text : List Char) : List Char :=
  (text.take most).takeWhile Char.isDigit

/-- A number of at least `least` and at most `most` digits. -/
def number? (least most : Nat) (text : List Char) : Option (Nat × List Char) :=
  let digits := leadingDigits most text
  if digits.length < least then none else some (Text.decimalValue digits, text.drop digits.length)

/-- A number of any length. -/
def wholeNumber? (text : List Char) : Option (Nat × List Char) :=
  number? 1 text.length text

/-- A given character. -/
def literal? (c : Char) : List Char → Option (List Char)
  | d :: rest => if c = d then some rest else none
  | [] => none

/-- The digits of a fraction of a second in nanoseconds. Nine digits count, and further ones are
passed over. -/
def nanoseconds? (text : List Char) : Option (Nat × List Char) :=
  let digits := leadingDigits 9 text
  if digits.isEmpty then none
  else some (Text.decimalValue (digits ++ List.replicate (9 - digits.length) '0'),
    (text.drop digits.length).dropWhile Char.isDigit)

/-- A fraction of a second, which may be left out. -/
def fraction? : List Char → Option (Nat × List Char)
  | '.' :: rest => nanoseconds? rest
  | text => some (0, text)

/-! ### The internet profile of ISO 8601: fixed field widths, and an offset at the end

The letters may be small, a space may stand for the `T`, and the minus sign of an offset may be the
mathematical one. -/

/-- The separator between date and time. -/
def separator? : List Char → Option (List Char)
  | 'T' :: rest | 't' :: rest | ' ' :: rest => some rest
  | _ => none

/-- The sign of an offset. -/
def offsetSign? : List Char → Option (List Char)
  | '+' :: rest | '-' :: rest | '\u2212' :: rest => some rest
  | _ => none

/-- An offset in hours and minutes, less than a day. Only its form matters: the time of day is kept
as it was written. -/
def offset? : List Char → Option (List Char)
  | 'Z' :: rest | 'z' :: rest => some rest
  | text => do
    let rest ← offsetSign? text
    let (hours, rest) ← number? 2 2 rest
    let rest ← literal? ':' rest
    let (minutes, rest) ← number? 2 2 rest
    if hours ≤ 23 && minutes ≤ 59 then some rest else none

/-- The fields of a timestamp with an offset, if the text is one as a whole. -/
def internet? (text : List Char) : Option Civil := do
  let (year, rest) ← number? 4 4 text
  let rest ← literal? '-' rest
  let (month, rest) ← number? 2 2 rest
  let rest ← literal? '-' rest
  let (day, rest) ← number? 2 2 rest
  let rest ← separator? rest
  let (hour, rest) ← number? 2 2 rest
  let rest ← literal? ':' rest
  let (minute, rest) ← number? 2 2 rest
  let rest ← literal? ':' rest
  let (second, rest) ← number? 2 2 rest
  let (nanosecond, rest) ← fraction? rest
  let rest ← offset? rest
  let civil : Civil := ⟨year, month, day, hour, minute, second, nanosecond⟩
  if rest.isEmpty && civil.isValid then some civil else none

/-! ### Without an offset, by a pattern of fields

The reading is lenient: a numeric field may have white space before it and fewer digits than usual, and a year
may carry a sign and then any number of digits. -/

/-- A piece of a pattern. -/
inductive Piece where
  | year
  | month
  | day
  | hour
  | minute
  | second
  | fraction
  | literal (c : Char)
  | blanks
  deriving DecidableEq, Repr

/-- A year: four digits at most, or a sign and any number of digits. -/
def year? (text : List Char) : Option (Int × List Char) :=
  match Text.trimStart text with
  | '-' :: rest => (wholeNumber? rest).map fun (value, rest) => (-value, rest)
  | '+' :: rest => (wholeNumber? rest).map fun (value, rest) => (value, rest)
  | text => (number? 1 4 text).map fun (value, rest) => (value, rest)

/-- A field of one or two digits. -/
def field? (text : List Char) : Option (Nat × List Char) :=
  number? 1 2 (Text.trimStart text)

/-- Reads one piece into the fields gathered so far. -/
def Piece.read? (piece : Piece) (civil : Civil) (text : List Char) : Option (Civil × List Char) :=
  match piece with
  | .year => (year? text).map fun (n, rest) => ({ civil with year := n }, rest)
  | .month => (field? text).map fun (n, rest) => ({ civil with month := n }, rest)
  | .day => (field? text).map fun (n, rest) => ({ civil with day := n }, rest)
  | .hour => (field? text).map fun (n, rest) => ({ civil with hour := n }, rest)
  | .minute => (field? text).map fun (n, rest) => ({ civil with minute := n }, rest)
  | .second => (field? text).map fun (n, rest) => ({ civil with second := n }, rest)
  | .fraction => (fraction? text).map fun (n, rest) => ({ civil with nanosecond := n }, rest)
  | .literal c => (literal? c text).map fun rest => (civil, rest)
  | .blanks => some (civil, Text.trimStart text)

/-- A pattern: the pieces of a timestamp in order. -/
abbrev Pattern := List Piece

/-- Reads the pieces one after the other. -/
def Pattern.read? (pattern : Pattern) (civil : Civil) (text : List Char) :
    Option (Civil × List Char) :=
  match pattern with
  | [] => some (civil, text)
  | piece :: rest => do
    let (civil, text) ← piece.read? civil text
    Pattern.read? rest civil text

/-- The fields of a text that follows the pattern as a whole. -/
def Pattern.civil? (pattern : Pattern) (text : List Char) : Option Civil := do
  let (civil, rest) ← pattern.read? ⟨0, 0, 0, 0, 0, 0, 0⟩ text
  if rest.isEmpty && civil.isValid then some civil else none

/-- A date. -/
def datePieces : Pattern :=
  [.year, .literal '-', .month, .literal '-', .day]

/-- A time of day. -/
def timePieces : Pattern :=
  [.hour, .literal ':', .minute, .literal ':', .second, .fraction]

/-- Date and time with a `T` between them. -/
def joined : Pattern :=
  datePieces ++ [.literal 'T'] ++ timePieces

/-- Date and time with any amount of white space between them, also none. -/
def spaced : Pattern :=
  datePieces ++ [.blanks] ++ timePieces

/-! ### The time of day -/

/-- The fields of a timestamp in any of the accepted forms. -/
def civil? (text : List Char) : Option Civil :=
  internet? text <|> joined.civil? text <|> spaced.civil? text

/-- The digit of a number below ten. -/
def digitChar (n : Nat) : Char :=
  Char.ofNat ('0'.toNat + n)

/-- Two digits. -/
def twoDigits (n : Nat) : List Char :=
  [digitChar (n / 10), digitChar (n % 10)]

/-- The tenths of the second, cut off and not rounded. A leap second stays at its last tenth. -/
def Civil.tenths (t : Civil) : Nat :=
  if t.second = 60 then 9 else t.nanosecond / 100000000

/-- `HH:MM:SS.d`. -/
def Civil.timeOfDay (t : Civil) : List Char :=
  twoDigits t.hour ++ ':' :: twoDigits t.minute ++ ':' :: twoDigits t.second ++
    ['.', digitChar t.tenths]

/-- Reduces a timestamp to its time of day. A text that is no timestamp stays as it is. -/
def timeOfDay (text : String) : String :=
  match civil? text.toList with
  | some civil => String.ofList civil.timeOfDay
  | none => text

end LiveLog.Timestamp
