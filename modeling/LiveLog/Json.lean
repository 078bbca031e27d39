import LiveLog.Text.Basic

/-! JSON values as the log server pushes them, and reading them from a text. -/
namespace LiveLog

/-- A number is an integer when it is written without fraction and exponent and fits in 64 bits,
signed or unsigned; every other number is a double. -/
inductive Number where
  | integer (value : Int)
  | real (value : Float)
  deriving Inhabited

/-- A JSON value. An object keeps its members as they were written, repetitions included. -/
inductive Json where
  | null
  | bool (value : Bool)
  | number (value : Number)
  | string (value : String)
  | array (items : List Json)
  | object (members : List (String × Json))
  deriving Inhabited

namespace Json

/-- The member of an object that counts for a name: the last one written. -/
def member? (name : String) (members : List (String × Json)) : Option Json :=
  members.reverse.lookup name

/-- The text of a string value. -/
def text? : Json → Option String
  | .string value => some value
  | _ => none

/-- The value of an integer that fits in an unsigned word. -/
def word? : Json → Option UInt64
  | .number (.integer value) =>
    if 0 ≤ value ∧ value < UInt64.size then some (UInt64.ofNat value.toNat) else none
  | _ => none

end Json

/-! ### The value of a written number

The digits are gathered into a 64-bit significand for as long as they fit; integer digits past that only count
as a power of ten and fraction digits past that are dropped. The significand is then scaled by one
multiplication or division with a power of ten, which may miss the nearest double by one unit. -/

namespace Number

/-- A significand and the power of ten that scales it. -/
structure Decimal where
  significand : Nat
  exponent : Int
  deriving Repr

/-- The value of a decimal digit. -/
def digitValue (c : Char) : Nat :=
  c.toNat - '0'.toNat

/-- Whether one more digit keeps the significand within 64 bits. -/
def fits (significand : Nat) (digit : Char) : Bool :=
  significand * 10 + digitValue digit < UInt64.size

/-- The digits before the point, and whether all of them fit. Once a digit does not fit, it and its
successors are counted. -/
def gatherInteger (significand : Nat) : List Char → Decimal × Bool
  | [] => (⟨significand, 0⟩, true)
  | digit :: rest =>
    if fits significand digit then gatherInteger (significand * 10 + digitValue digit) rest
    else (⟨significand, rest.length + 1⟩, false)

/-- The digits after the point. Once a digit does not fit, it and its successors are dropped. -/
def gatherFraction (decimal : Decimal) : List Char → Decimal
  | [] => decimal
  | digit :: rest =>
    if fits decimal.significand digit then
      gatherFraction ⟨decimal.significand * 10 + digitValue digit, decimal.exponent - 1⟩ rest
    else decimal

/-- The double nearest to a power of ten. -/
def powerOfTen (exponent : Nat) : Float :=
  Float.ofScientific 1 false exponent

/-- `value · 10 ^ exponent` in double arithmetic. Small results are reached in steps of 308 decimal
places; a result beyond the doubles is refused. -/
def scale (value : Float) (exponent : Int) : Option Float :=
  if 0 ≤ exponent then
    if exponent ≤ 308 then
      let scaled := value * powerOfTen exponent.toNat
      if scaled.isInf then none else some scaled
    else if value == 0 then some value
    else none
  else if -308 ≤ exponent then some (value / powerOfTen (-exponent).toNat)
  else if value == 0 then some value
  else scale (value / powerOfTen 308) (exponent + 308)
termination_by (-exponent).toNat
decreasing_by omega

/-- The double with a given sign and decimal magnitude. -/
def ofDecimal? (negative : Bool) (decimal : Decimal) : Option Number :=
  (scale (Float.ofNat decimal.significand) decimal.exponent).map fun magnitude =>
    .real (if negative then -magnitude else magnitude)

/-- An integer literal whose digits fit in 64 bits. A negative one has to fit in a signed word, and
minus zero is a double. -/
def ofWord (negative : Bool) (magnitude : Nat) : Number :=
  if !negative then .integer magnitude
  else if magnitude = 0 || UInt64.size / 2 < magnitude then .real (-Float.ofNat magnitude)
  else .integer (-magnitude)

/-- The value of a literal from its parts: sign, digits before the point, digits after it, and the
exponent with its sign. -/
def ofParts? (negative : Bool) (whole : List Char) (fraction : Option (List Char))
    (exponent : Option Int) : Option Number :=
  let (decimal, exact) := gatherInteger 0 whole
  match fraction, exponent with
  | none, none =>
    if exact then some (ofWord negative decimal.significand) else ofDecimal? negative decimal
  | fraction, exponent =>
    let decimal := gatherFraction decimal (fraction.getD [])
    ofDecimal? negative { decimal with exponent := decimal.exponent + exponent.getD 0 }

end Number

namespace Json

/-! ### Tokens -/

/-- Punctuation, literals and scalars. -/
inductive Token where
  | openArray
  | closeArray
  | openObject
  | closeObject
  | colon
  | comma
  | scalar (value : Json)
  deriving Inhabited

/-- The white space JSON allows between tokens. -/
def isSpace (c : Char) : Bool :=
  c = ' ' || c = '\t' || c = '\n' || c = '\r'

/-- The value of a hexadecimal digit. -/
def hexDigit? (c : Char) : Option Nat :=
  if '0' ≤ c ∧ c ≤ '9' then some (c.toNat - '0'.toNat)
  else if 'a' ≤ c ∧ c ≤ 'f' then some (c.toNat - 'a'.toNat + 10)
  else if 'A' ≤ c ∧ c ≤ 'F' then some (c.toNat - 'A'.toNat + 10)
  else none

/-- The code unit written by four hexadecimal digits. -/
def codeUnit? (a b c d : Char) : Option Nat := do
  return (((← hexDigit? a) * 16 + (← hexDigit? b)) * 16 + (← hexDigit? c)) * 16 + (← hexDigit? d)

/-- The character of an escape of one letter. -/
def escape? : Char → Option Char
  | '"' => some '"'
  | '\\' => some '\\'
  | '/' => some '/'
  | 'b' => some '\x08'
  | 'f' => some '\x0c'
  | 'n' => some '\n'
  | 'r' => some '\r'
  | 't' => some '\t'
  | _ => none

/-- The rest of a string after its opening quote: the characters read, and the text after the closing
quote. `high` is a leading surrogate that waits for its trailing one, and `done` holds what was read,
last first. -/
def stringTail? (high : Option Nat) (done : List Char) : List Char → Option (List Char × List Char)
  | [] => none
  | '\\' :: 'u' :: a :: b :: c :: d :: rest =>
    match codeUnit? a b c d, high with
    | none, _ => none
    | some unit, some lead =>
      if 0xDC00 ≤ unit ∧ unit ≤ 0xDFFF then
        let code := 0x10000 + (lead - 0xD800) * 0x400 + (unit - 0xDC00)
        stringTail? none (Char.ofNat code :: done) rest
      else none
    | some unit, none =>
      if 0xD800 ≤ unit ∧ unit ≤ 0xDBFF then stringTail? (some unit) done rest
      else if 0xDC00 ≤ unit ∧ unit ≤ 0xDFFF then none
      else stringTail? none (Char.ofNat unit :: done) rest
  | c :: rest =>
    if high.isSome then none
    else if c = '"' then some (done.reverse, rest)
    else if c = '\\' then
      match rest with
      | e :: rest =>
        match escape? e with
        | some escaped => stringTail? none (escaped :: done) rest
        | none => none
      | [] => none
    else if c < ' ' then none
    else stringTail? none (c :: done) rest

/-- A run of digits and the text after it. -/
def spanDigits (text : List Char) : List Char × List Char :=
  (text.takeWhile Char.isDigit, text.dropWhile Char.isDigit)

/-- The digits after a decimal point, which must be there when the point is. -/
def fraction? : List Char → Option (Option (List Char) × List Char)
  | '.' :: rest =>
    let (digits, rest) := spanDigits rest
    if digits.isEmpty then none else some (some digits, rest)
  | text => some (none, text)

/-- The exponent after its letter. -/
def exponentDigits? (negative : Bool) (text : List Char) : Option (Option Int × List Char) :=
  let (digits, rest) := spanDigits text
  let value : Int := Text.decimalValue digits
  if digits.isEmpty then none else some (some (if negative then -value else value), rest)

/-- The exponent of a number, if it has one. -/
def exponent? : List Char → Option (Option Int × List Char)
  | 'e' :: '+' :: rest | 'E' :: '+' :: rest => exponentDigits? false rest
  | 'e' :: '-' :: rest | 'E' :: '-' :: rest => exponentDigits? true rest
  | 'e' :: rest | 'E' :: rest => exponentDigits? false rest
  | text => some (none, text)

/-- A number after its sign. The integer digits do not start with a needless zero. -/
def magnitude? (negative : Bool) (text : List Char) : Option (Json × List Char) := do
  let (whole, rest) := spanDigits text
  if whole.isEmpty || (whole.head? = some '0' && 1 < whole.length) then none
  let (fraction, rest) ← fraction? rest
  let (exponent, rest) ← exponent? rest
  let value ← Number.ofParts? negative whole fraction exponent
  return (.number value, rest)

/-- The first token of a text that starts with `c`, and the text after it. -/
def token? (c : Char) (rest : List Char) : Option (Token × List Char) :=
  match c, rest with
  | '[', rest => some (.openArray, rest)
  | ']', rest => some (.closeArray, rest)
  | '{', rest => some (.openObject, rest)
  | '}', rest => some (.closeObject, rest)
  | ':', rest => some (.colon, rest)
  | ',', rest => some (.comma, rest)
  | 'n', 'u' :: 'l' :: 'l' :: rest => some (.scalar .null, rest)
  | 't', 'r' :: 'u' :: 'e' :: rest => some (.scalar (.bool true), rest)
  | 'f', 'a' :: 'l' :: 's' :: 'e' :: rest => some (.scalar (.bool false), rest)
  | '"', rest =>
    (stringTail? none [] rest).map fun (chars, rest) => (.scalar (.string (String.ofList chars)), rest)
  | '-', rest => (magnitude? true rest).map fun (value, rest) => (.scalar value, rest)
  | c, rest => (magnitude? false (c :: rest)).map fun (value, rest) => (.scalar value, rest)

/-- The tokens of a text, or none when some part of it is no token. Every token takes at least one
character, so as many steps as there are characters reach the end. `done` holds the tokens read,
last first. -/
def tokensFrom? (done : List Token) : Nat → List Char → Option (List Token)
  | _, [] => some done.reverse
  | 0, _ :: _ => none
  | steps + 1, c :: rest =>
    if isSpace c then tokensFrom? done steps rest
    else match token? c rest with
      | some (token, rest) => tokensFrom? (token :: done) steps rest
      | none => none

/-- The tokens of a text. -/
def tokens? (text : List Char) : Option (List Token) :=
  tokensFrom? [] text.length text

/-! ### Reading

The tokens drive a machine whose state holds the containers still open and what may come next; the text is a
value when the machine ends with nothing open. -/

/-- A container that is still open: what it holds so far, last first, and for an object the name that
waits for its value. -/
inductive Frame where
  | array (items : List Json)
  | object (members : List (String × Json)) (name : String)

/-- What the reader is about to see. -/
inductive Expectation where
  | value
  | itemOrClose
  | nameOrClose (members : List (String × Json))
  | name (members : List (String × Json))
  | colon (members : List (String × Json)) (name : String)
  | commaOrClose (finished : Json)
  | nothing (result : Json)

/-- The open containers, innermost first, and the expectation inside them. -/
structure Reader where
  frames : List Frame
  expects : Expectation

/-- Containers may be nested this deep. -/
def maxDepth : Nat := 127

namespace Reader

/-- A value is complete: it waits in the innermost container, or is the result. -/
def finish (frames : List Frame) (value : Json) : Reader :=
  match frames with
  | [] => ⟨[], .nothing value⟩
  | frames => ⟨frames, .commaOrClose value⟩

/-- A container opens unless the nesting is too deep. -/
def enter? (frames : List Frame) (frame : Frame) (expects : Expectation) : Option Reader :=
  if frames.length < maxDepth then some ⟨frame :: frames, expects⟩ else none

/-- A token where a value may stand. -/
def value? (frames : List Frame) : Token → Option Reader
  | .openArray => enter? frames (.array []) .itemOrClose
  | .openObject => enter? frames (.object [] "") (.nameOrClose [])
  | .scalar value => some (finish frames value)
  | _ => none

/-- A token where a member name may stand. -/
def name? (frames : List Frame) (members : List (String × Json)) : Token → Option Reader
  | .scalar (.string name) => some ⟨frames, .colon members name⟩
  | _ => none

/-- One token. -/
def step? (reader : Reader) (token : Token) : Option Reader :=
  match reader.expects, reader.frames, token with
  | .value, frames, token => value? frames token
  | .itemOrClose, .array _ :: frames, .closeArray => some (finish frames (.array []))
  | .itemOrClose, frames, token => value? frames token
  | .nameOrClose _, _ :: frames, .closeObject => some (finish frames (.object []))
  | .nameOrClose members, frames, token => name? frames members token
  | .name members, frames, token => name? frames members token
  | .colon members name, _ :: frames, .colon => some ⟨.object members name :: frames, .value⟩
  | .commaOrClose item, .array items :: frames, .comma => some ⟨.array (item :: items) :: frames, .value⟩
  | .commaOrClose item, .array items :: frames, .closeArray =>
    some (finish frames (.array (item :: items).reverse))
  | .commaOrClose value, .object members name :: frames, .comma =>
    some ⟨.object members name :: frames, .name ((name, value) :: members)⟩
  | .commaOrClose value, .object members name :: frames, .closeObject =>
    some (finish frames (.object ((name, value) :: members).reverse))
  | _, _, _ => none

end Reader

/-- The value a text writes, or none when the text is no JSON. -/
def read? (text : String) : Option Json := do
  let tokens ← tokens? text.toList
  let reader ← tokens.foldlM Reader.step? ⟨[], .value⟩
  match reader.expects with
  | .nothing result => return result
  | _ => none

end Json

end LiveLog
