/-! Texts by byte offsets in UTF-8: taking parts of them, changing them, and finding a text in another. Only at
some offsets can a text be cut: where a character begins, and at the end. -/
namespace LiveLog.Text

/-! ### Parts of a text -/

/-- Whether a character begins at a byte offset, or the text ends there. -/
def isCharBoundary (text : String) (offset : Nat) : Bool :=
  String.Pos.Raw.isValid text ⟨offset⟩

/-- The part of a text between two offsets at which it can be cut. -/
def slice (text : String) (start stop : Nat) : String :=
  String.Pos.Raw.extract text ⟨start⟩ ⟨stop⟩

/-! ### Changing a text -/

/-- The byte offsets at which characters begin, the first of them at `offset`. -/
def charStarts (offset : Nat) : List Char → List Nat
  | [] => []
  | c :: rest => offset :: charStarts (offset + c.utf8Size) rest

/-- The byte offset at which the character at a position begins. A position that no character has stands
for the end of the text. -/
def byteOffset (text : String) (position : Nat) : Nat :=
  (charStarts 0 text.toList)[position]?.getD text.utf8ByteSize

/-- A text with a character put in at a byte offset. Inside a character and beyond the end nothing can be
put in. -/
def insert? (text : String) (offset : Nat) (c : Char) : Option String :=
  if isCharBoundary text offset then
    some ((slice text 0 offset).push c ++ slice text offset text.utf8ByteSize)
  else none

/-- A text without the character that begins at a byte offset. None begins inside another, at the end or
beyond it. -/
def remove? (text : String) (offset : Nat) : Option String :=
  if isCharBoundary text offset then
    (slice text offset text.utf8ByteSize).toList.head?.map fun c =>
      slice text 0 offset ++ slice text (offset + c.utf8Size) text.utf8ByteSize
  else none

/-! ### Finding a text in another, letter by letter under a given notion of equal letters -/

/-- Whether a text starts with a pattern. -/
def startsWith (same : Char → Char → Bool) : List Char → List Char → Bool
  | [], _ => true
  | p :: pattern, c :: text => same p c && startsWith same pattern text
  | _ :: _, [] => false

/-- Whether a pattern occurs at one of the first `starts` positions. -/
def occursWithin (same : Char → Char → Bool) (pattern : List Char) : Nat → List Char → Bool
  | 0, _ => false
  | _ + 1, [] => startsWith same pattern []
  | starts + 1, c :: text =>
    startsWith same pattern (c :: text) || occursWithin same pattern starts text

/-- Whether a pattern occurs in a text. Positions that leave no room for it are not tried. -/
def occurs (same : Char → Char → Bool) (pattern text : List Char) : Bool :=
  occursWithin same pattern (text.length + 1 - pattern.length) text

/-- The size of a text in bytes. -/
def byteSize (text : List Char) : Nat :=
  text.foldl (fun size c => size + c.utf8Size) 0

/-- The leftmost matches that do not overlap, as pairs of byte offsets. `matchAt before text` tells
how many characters a match takes that starts at the front of `text`, where `before` is the character
in front of it. `skip` characters belong to the match found last. -/
def findAllFrom (matchAt : Option Char → List Char → Option Nat) (skip position : Nat)
    (before : Option Char) : List Char → List (Nat × Nat)
  | [] => []
  | c :: rest =>
    let next := position + c.utf8Size
    match skip with
    | skip + 1 => findAllFrom matchAt skip next (some c) rest
    | 0 =>
      match matchAt before (c :: rest) with
      | some length =>
        (position, position + byteSize ((c :: rest).take length)) ::
          findAllFrom matchAt (length - 1) next (some c) rest
      | none => findAllFrom matchAt 0 next (some c) rest

/-- The leftmost matches of a text that do not overlap. -/
def findAll (matchAt : Option Char → List Char → Option Nat) (text : List Char) :
    List (Nat × Nat) :=
  findAllFrom matchAt 0 0 none text

end LiveLog.Text
