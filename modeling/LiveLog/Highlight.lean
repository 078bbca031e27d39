import LiveLog.Filter
import LiveLog.Record
import LiveLog.Style
import LiveLog.Text.Offsets
import LiveLog.Text.Word

/-! Highlighting of log messages: search matches, and below them the words that tell of failure. -/
namespace LiveLog

/-- A range of bytes, the style it asks for, and how it ranks where ranges overlap. -/
structure Span where
  start : Nat
  stop : Nat
  style : Style
  priority : Nat
  deriving DecidableEq, Repr

/-- The style of a level. -/
def Level.style : Level → Style
  | .error => (Style.ofFg .red).bolded
  | .warn => (Style.ofFg .yellow).bolded
  | .info => Style.ofFg .green
  | .debug => Style.ofFg .cyan
  | .trace => Style.ofFg .cyan
  | .other _ => Style.ofFg .gray

namespace Highlight

/-- The words that tell of failure. -/
def failureWords : List (List Char) :=
  ["error", "fatal", "failed", "failure", "fail", "panicked", "panic"].map String.toList

/-- The length of the failure word that stands at the front of a text, between word boundaries. -/
def failureWordAt (before : Option Char) (text : List Char) : Option Nat :=
  if Text.isBoundary before text.head? then
    (failureWords.find? fun word =>
      Text.startsWith Matcher.standsFor word text &&
        Text.isBoundary (text[word.length - 1]?) (text[word.length]?)).map List.length
  else none

/-- The style of search matches. -/
def searchStyle : Style :=
  { fg := some .black, bg := some .yellow, modifiers := { bold := true } }

/-- The style of failure words. -/
def failureStyle : Style := Style.ofFg .red

/-- Earlier ranges come first, and of those that start together the one that ranks higher. -/
def comesBefore (a b : Span) : Bool :=
  a.start < b.start || (a.start = b.start && b.priority ≤ a.priority)

/-- The ranges to highlight in a message. -/
def spans (text : String) (search : Option Matcher) : List Span :=
  let found := (search.elim [] (·.findIn text.toList)).map fun (start, stop) =>
    ({ start, stop, style := searchStyle, priority := 100 } : Span)
  let words := (Text.findAll failureWordAt text.toList).map fun (start, stop) =>
    ({ start, stop, style := failureStyle, priority := 10 } : Span)
  (found ++ words).mergeSort comesBefore

/-- The bytes that a range takes in of so many: those from the first offset up to the second. A range
that reaches beyond the last byte ends there, and one that ends before it starts takes in none. -/
def bytesOf (span : Span) (size : Nat) : Nat × Nat :=
  let stop := min span.stop size
  (min span.start stop, stop)

/-- One range painted over bytes. Every byte has a style and the rank of what asked for it; paint stays
where a range that ranks lower comes over it. -/
def paintOver (base : Style) (painted : Array (Style × Nat)) (span : Span) : Array (Style × Nat) :=
  let (start, stop) := bytesOf span painted.size
  painted.mapIdx fun offset paint =>
    if start ≤ offset && offset < stop && paint.2 ≤ span.priority then
      (base.patch span.style, span.priority)
    else paint

/-- So many bytes with the ranges painted over them, one after the other. -/
def paint (size : Nat) (base : Style) (spans : List Span) : Array (Style × Nat) :=
  spans.foldl (paintOver base) (Array.replicate size (base, 0))

/-- A part of a text in one style, by the bytes from `start` up to `stop`. -/
structure Cut where
  start : Nat
  stop : Nat
  style : Style
  deriving DecidableEq, Repr

/-- Cuts a text whose last cut was at `start`, where so many bytes are left from `offset` on. The next
cut is where a character begins in another style. -/
def cutsFrom (text : String) (styleAt : Nat → Style) (start offset : Nat) : Nat → List Cut
  | 0 => [⟨start, offset, styleAt start⟩]
  | left + 1 =>
    if styleAt offset = styleAt start || !Text.isCharBoundary text offset then
      cutsFrom text styleAt start (offset + 1) left
    else ⟨start, offset, styleAt start⟩ :: cutsFrom text styleAt offset (offset + 1) left

/-- The parts of a text under ranges. A text of no bytes has none. -/
def cuts (text : String) (spans : List Span) (base : Style) : List Cut :=
  let painted := paint text.utf8ByteSize base spans
  match text.utf8ByteSize with
  | 0 => []
  | left + 1 => cutsFrom text (fun offset => (painted.getD offset (base, 0)).1) 0 1 left

/-- Splits a text into runs of equal style. Without ranges the text is one run, however short. -/
def runs (text : String) (spans : List Span) (base : Style) : List (String × Style) :=
  if spans.isEmpty then [(text, base)]
  else (cuts text spans base).map fun cut => (Text.slice text cut.start cut.stop, cut.style)

end Highlight

end LiveLog
