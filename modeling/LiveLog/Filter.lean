import LiveLog.Record
import LiveLog.Text.Casing
import LiveLog.Text.Folding
import LiveLog.Text.Offsets

/-! What a viewer lets through: a record passes when its level is shown and the search text, if there
is one, occurs in its message or in its time of day, without regard to case. -/
namespace LiveLog

/-- A search text with every letter folded. -/
structure Matcher where
  letters : List Char
  deriving DecidableEq, Repr

namespace Matcher

/-- The number of letters above which a text counts as too large to be compiled for searching. The compiled
form has a limit on its own size, which depends on the letters; a fixed number of them stands for it as an
approximation. -/
def maxLetters : Nat := 100000

/-- The matcher of a text. There is none for the empty text and none for an oversized one. -/
def ofChars? (text : List Char) : Option Matcher :=
  if text.isEmpty || maxLetters < text.length then none
  else some ⟨text.map Text.foldChar⟩

/-- Whether a folded letter stands for a character. -/
def standsFor (letter c : Char) : Bool :=
  letter = Text.foldChar c

/-- Whether the search text occurs. -/
def occursIn (matcher : Matcher) (text : List Char) : Bool :=
  Text.occurs standsFor matcher.letters text

/-- Where the search text occurs, as byte offsets. -/
def findIn (matcher : Matcher) (text : List Char) : List (Nat × Nat) :=
  Text.findAll (fun _ rest =>
    if Text.startsWith standsFor matcher.letters rest then some matcher.letters.length else none) text

end Matcher

/-- A search text, whether verbose levels are shown, and what searching needs: the matcher, or, for a
text that has none, the text in lower case. -/
structure Filter where
  text : String
  showVerbose : Bool
  matcher : Option Matcher
  lowered : List Char
  deriving DecidableEq, Repr

namespace Filter

/-- The filter of a search text. -/
def new (text : String) (showVerbose : Bool) : Filter where
  text := text
  showVerbose := showVerbose
  matcher := Matcher.ofChars? text.toList
  lowered := Text.lowerChars text.toList

/-- The filter that hides verbose records only. -/
def standard : Filter := new "" false

/-- The filter with another search text. -/
def withText (filter : Filter) (text : String) : Filter :=
  new text filter.showVerbose

/-- The filter with verbose levels shown or hidden. -/
def withVerbose (filter : Filter) (showVerbose : Bool) : Filter :=
  { filter with showVerbose }

/-- Whether the search text occurs in a text. Without a matcher both are compared in lower case. -/
def findsIn (filter : Filter) (text : String) : Bool :=
  match filter.matcher with
  | some matcher => matcher.occursIn text.toList
  | none => Text.occurs (· = ·) filter.lowered (Text.lowerChars text.toList)

/-- Whether a record passes. -/
def admits (filter : Filter) (record : Record) : Bool :=
  if !filter.showVerbose && record.level.isVerbose then false
  else if filter.text.isEmpty then true
  else filter.findsIn record.message || filter.findsIn record.timestamp

end Filter

end LiveLog
