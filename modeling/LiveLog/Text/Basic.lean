/-! Characters by their kinds, and decimal numerals. A set of characters is a list of closed ranges of code
points, a map is a list of runs that move every member by the same distance. Both are searched from the
front; the tables are short and the callers settle ASCII characters before they look at them. -/
namespace LiveLog.Text

/-! ### Sets and maps of characters -/

/-- Membership in a union of closed ranges of code points. -/
def inRanges (ranges : List (Nat × Nat)) (c : Char) : Bool :=
  ranges.any fun (lo, hi) => lo ≤ c.toNat && c.toNat ≤ hi

/-- Whether a character lies between two code points. -/
def isBetween (c : Char) (low high : Nat) : Bool :=
  low ≤ c.toNat && c.toNat ≤ high

/-- The code points `first, first + step, …, last`, each moved by `distance`. -/
structure Shift where
  first : Nat
  last : Nat
  step : Nat
  distance : Int
  deriving Repr

/-- Where a code point goes, if it belongs to the run. -/
def Shift.image? (run : Shift) (code : Nat) : Option Nat :=
  if run.first ≤ code ∧ code ≤ run.last ∧ (code - run.first) % run.step = 0 then
    some (code + run.distance).toNat
  else
    none

/-- The image of a character under the first run that holds it; every other character stays. -/
def shiftBy (runs : List Shift) (c : Char) : Char :=
  match runs.findSome? (·.image? c.toNat) with
  | some code => Char.ofNat code
  | none => c

/-- The ASCII characters are the code points below 128. -/
def isAscii (c : Char) : Bool :=
  c.toNat < 128

/-! ### White space, by the Unicode property White_Space -/

/-- The property White_Space. -/
def isBlank (c : Char) : Bool :=
  c = ' ' || ('\t' ≤ c && c ≤ '\r') || c = '\u0085' || c = '\u00a0' || c = '\u1680' ||
  ('\u2000' ≤ c && c ≤ '\u200a') || c = '\u2028' || c = '\u2029' || c = '\u202f' ||
  c = '\u205f' || c = '\u3000'

/-- The text without the white space it starts with. -/
def trimStart (text : List Char) : List Char :=
  text.dropWhile isBlank

/-- The text without the white space it ends with. -/
def trimEnd (text : List Char) : List Char :=
  (text.reverse.dropWhile isBlank).reverse

/-- The text without white space at either end. -/
def trim (text : List Char) : List Char :=
  trimEnd (trimStart text)

/-! ### Decimal numerals -/

/-- The decimal digits of a number, without leading zeros. -/
def decimalChars (n : Nat) : List Char :=
  Nat.toDigits 10 n

/-- A number in decimal. -/
def decimal (n : Nat) : String :=
  String.ofList (decimalChars n)

/-- The value of a digit string. -/
def decimalValue (digits : List Char) : Nat :=
  digits.foldl (fun value digit => value * 10 + (digit.toNat - '0'.toNat)) 0

/-- Reads a 64-bit word: ASCII digits, at least one, after an optional plus sign. Leading zeros are
allowed, and a value that does not fit is refused. -/
def word? (text : List Char) : Option UInt64 :=
  let digits := match text with
    | '+' :: rest => rest
    | text => text
  if !digits.isEmpty && digits.all Char.isDigit && decimalValue digits < UInt64.size then
    some (UInt64.ofNat (decimalValue digits))
  else
    none

end LiveLog.Text
