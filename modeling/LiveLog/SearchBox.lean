import LiveLog.Text.Offsets

/-! The keys of a terminal, and the search box: a line of text with a cursor between its characters. The cursor
counts characters, while the text is changed at byte offsets. -/
namespace LiveLog

/-- A key press. The keys not named here are one, as nothing is bound to any of them. -/
inductive Key where
  | char (c : Char)
  | enter
  | escape
  | left
  | right
  | up
  | down
  | home
  | endKey
  | pageUp
  | pageDown
  | tab
  | backspace
  | delete
  | insert
  | other
  deriving DecidableEq, Repr

/-- A text and the number of characters before the cursor. -/
structure SearchBox where
  text : String
  cursor : Nat
  deriving DecidableEq, Repr

/-- What a key did to the box. -/
inductive Edit where
  | changed
  | unchanged
  | done
  deriving DecidableEq, Repr

namespace SearchBox

/-- The box before anything was typed. -/
def empty : SearchBox := ⟨"", 0⟩

/-- A box with the given text and the cursor after it. -/
def ofText (text : String) : SearchBox :=
  ⟨text, text.length⟩

/-- The box with a character inserted at the cursor, if the text can be cut there. -/
def insert? (box : SearchBox) (c : Char) : Option SearchBox :=
  (Text.insert? box.text (Text.byteOffset box.text box.cursor) c).map (⟨·, box.cursor + 1⟩)

/-- The box without the character at a position, if there is one, and the cursor where it is told. -/
def remove? (box : SearchBox) (position cursor : Nat) : Option SearchBox :=
  (Text.remove? box.text (Text.byteOffset box.text position)).map (⟨·, cursor⟩)

/-- One key, if what it asks for can be done. Enter and escape leave the box as it is and end the
editing. -/
def press? (box : SearchBox) : Key → Option (SearchBox × Edit)
  | .enter => some (box, .done)
  | .escape => some (box, .done)
  | .left => some ({ box with cursor := box.cursor - 1 }, .unchanged)
  | .right => some ({ box with cursor := min (box.cursor + 1) box.text.length }, .unchanged)
  | .home => some ({ box with cursor := 0 }, .unchanged)
  | .endKey => some ({ box with cursor := box.text.length }, .unchanged)
  | .char c => (box.insert? c).map (·, .changed)
  | .backspace =>
    if 0 < box.cursor then (box.remove? (box.cursor - 1) (box.cursor - 1)).map (·, .changed)
    else some (box, .unchanged)
  | .delete =>
    if box.cursor < box.text.length then (box.remove? box.cursor box.cursor).map (·, .changed)
    else some (box, .unchanged)
  | _ => some (box, .unchanged)

/-- One key. What cannot be done leaves the box as it is. -/
def press (box : SearchBox) (key : Key) : SearchBox × Edit :=
  (box.press? key).getD (box, .unchanged)

end SearchBox

end LiveLog
