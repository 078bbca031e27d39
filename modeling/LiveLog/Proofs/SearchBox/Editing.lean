import LiveLog.Proofs.Text.Offsets
import LiveLog.SearchBox

/-! The search box edits a list of characters. Its cursor splits the list in two, and a key works on what
stands next to the split, whatever sizes the characters have in bytes. So the text is changed only where a
character begins or at its end, and everything that the keys ask for can be done. -/
namespace LiveLog

namespace SearchBox

/-- The cursor is at the end or before it. -/
def Within (box : SearchBox) : Prop := box.cursor ≤ box.text.length

theorem ofText_within (text : String) : (ofText text).Within := Nat.le_refl _

theorem press?_char (box : SearchBox) (c : Char) :
    box.press? (.char c) = (box.insert? c).map (·, .changed) := rfl

theorem press?_backspace (box : SearchBox) :
    box.press? .backspace =
      if 0 < box.cursor then (box.remove? (box.cursor - 1) (box.cursor - 1)).map (·, .changed)
      else some (box, .unchanged) := rfl

theorem press?_delete (box : SearchBox) :
    box.press? .delete =
      if box.cursor < box.text.length then (box.remove? box.cursor box.cursor).map (·, .changed)
      else some (box, .unchanged) := rfl

/-- What is done to a box: a key is pressed, or it is given another text. -/
inductive Act where
  | press (key : Key)
  | set (text : String)
  deriving DecidableEq, Repr

/-- The box after an act. -/
def after (box : SearchBox) : Act → SearchBox
  | .press key => (box.press key).1
  | .set text => .ofText text

/-- The box after some acts. -/
def run (box : SearchBox) (acts : List Act) : SearchBox := acts.foldl after box

end SearchBox

/-- A line of characters in two parts, with the cursor between them. -/
structure SplitLine where
  left : List Char
  right : List Char
  deriving DecidableEq, Repr

namespace SplitLine

/-- The line before anything was typed. -/
def empty : SplitLine := ⟨[], []⟩

/-- The characters of a text, with the cursor after them. -/
def ofText (text : String) : SplitLine := ⟨text.toList, []⟩

/-- One key. Typing puts a character in at the left of the cursor, backspace takes one away there, and
delete one at the right; the cursor goes over one character or over all on a side. At an end of the line
there is nothing to take away or to go over. -/
def press (line : SplitLine) : Key → SplitLine
  | .char c => ⟨line.left ++ [c], line.right⟩
  | .backspace => ⟨line.left.dropLast, line.right⟩
  | .delete => ⟨line.left, line.right.tail⟩
  | .left => ⟨line.left.dropLast, line.left.getLast?.toList ++ line.right⟩
  | .right => ⟨line.left ++ line.right.head?.toList, line.right.tail⟩
  | .home => ⟨[], line.left ++ line.right⟩
  | .endKey => ⟨line.left ++ line.right, []⟩
  | _ => line

@[simp] theorem press_char (line : SplitLine) (c : Char) :
    line.press (.char c) = ⟨line.left ++ [c], line.right⟩ := rfl

@[simp] theorem press_backspace (line : SplitLine) :
    line.press .backspace = ⟨line.left.dropLast, line.right⟩ := rfl

@[simp] theorem press_delete (line : SplitLine) : line.press .delete = ⟨line.left, line.right.tail⟩ := rfl

@[simp] theorem press_left (line : SplitLine) :
    line.press .left = ⟨line.left.dropLast, line.left.getLast?.toList ++ line.right⟩ := rfl

@[simp] theorem press_right (line : SplitLine) :
    line.press .right = ⟨line.left ++ line.right.head?.toList, line.right.tail⟩ := rfl

/-- The line after an act. -/
def after (line : SplitLine) : SearchBox.Act → SplitLine
  | .press key => line.press key
  | .set text => .ofText text

/-- The line after some acts. -/
def run (line : SplitLine) (acts : List SearchBox.Act) : SplitLine := acts.foldl after line

/-- The text of a line. -/
def text (line : SplitLine) : String := String.ofList (line.left ++ line.right)

/-- The number of characters before the cursor. -/
def cursor (line : SplitLine) : Nat := line.left.length

/-- What a key is answered: that it ends the editing, or else whether it changed the text. -/
def answer (line : SplitLine) (key : Key) : Edit :=
  if key = .enter ∨ key = .escape then .done
  else if (line.press key).text = line.text then .unchanged
  else .changed

/-- The box that shows a line. -/
def box (line : SplitLine) : SearchBox := ⟨line.text, line.cursor⟩

variable {line later : SplitLine} {key : Key}

/-! ### Lines and boxes -/

theorem toList_text (line : SplitLine) : line.text.toList = line.left ++ line.right :=
  String.toList_ofList

theorem length_text (line : SplitLine) : line.text.length = line.left.length + line.right.length := by
  rw [← String.length_toList, toList_text, List.length_append]

theorem box_within (line : SplitLine) : line.box.Within := by
  change line.left.length ≤ line.text.length
  rw [length_text]
  exact Nat.le_add_right _ _

/-- A box with its cursor in the text shows a line. -/
theorem exists_box {box : SearchBox} (within : box.Within) :
    ∃ line : SplitLine, box = line.box := by
  refine ⟨⟨box.text.toList.take box.cursor, box.text.toList.drop box.cursor⟩, ?_⟩
  have cursor : (box.text.toList.take box.cursor).length = box.cursor := by
    rw [List.length_take, String.length_toList]
    exact Nat.min_eq_left within
  rw [SplitLine.box, text, SplitLine.cursor, List.take_append_drop, cursor, String.ofList_toList]

theorem ofText_box (text : String) : SearchBox.ofText text = (ofText text).box := by
  rw [SearchBox.ofText, box, SplitLine.text, cursor, ofText, List.append_nil, String.ofList_toList,
    String.length_toList]

/-- Where the characters stay the same, only the cursor can have moved. -/
theorem box_of_same (same : later.left ++ later.right = line.left ++ line.right) :
    later.box = { line.box with cursor := later.cursor } := by
  simp only [box, text, same]

/-! ### Answers -/

theorem answer_changed_iff (line : SplitLine) (key : Key) :
    line.answer key = .changed ↔ (line.press key).text ≠ line.text := by
  by_cases ends : key = .enter ∨ key = .escape
  · have same : line.press key = line := by
      rcases ends with rfl | rfl <;> rfl
    simp [answer, ends, same]
  · by_cases same : (line.press key).text = line.text <;> simp [answer, ends, same]

theorem answer_done_iff (line : SplitLine) (key : Key) :
    line.answer key = .done ↔ key = .enter ∨ key = .escape := by
  by_cases ends : key = .enter ∨ key = .escape
  · simp [answer, ends]
  · by_cases same : (line.press key).text = line.text <;> simp [answer, ends, same]

/-- A line that gets longer or shorter is another text. -/
theorem answer_of_length (differ : (line.press key).left.length + (line.press key).right.length ≠
    line.left.length + line.right.length) : line.answer key = .changed := by
  rw [answer_changed_iff]
  intro same
  rw [← length_text, ← length_text, same] at differ
  exact differ rfl

/-! ### One key -/

/-- A character typed stands between those at the left of the cursor and those at its right. -/
theorem box_char (line : SplitLine) (c : Char) :
    line.box.press? (.char c) = some ((line.press (.char c)).box, line.answer (.char c)) := by
  have inserted : Text.insert? line.text (Text.byteOffset line.text line.cursor) c =
      some (line.press (.char c)).text := by
    rw [Text.insert?_eq_some_iff]
    refine ⟨line.left, line.right, line.toList_text, Text.byteOffset_eq line.toList_text, ?_⟩
    rw [text, press_char, List.append_assoc, List.singleton_append]
  have cursor : (line.press (.char c)).cursor = line.cursor + 1 := List.length_append
  have changed : line.answer (.char c) = .changed := by
    apply answer_of_length
    simp only [press_char, List.length_append, List.length_singleton]
    omega
  rw [SearchBox.press?_char, SearchBox.insert?, box, inserted, changed, box, cursor]
  rfl

/-- A key that takes a character away takes it from the box as from the line. -/
theorem box_shortened {first rest : List Char} {c : Char}
    (pressed : line.box.press? key =
      (line.box.remove? first.length first.length).map (·, .changed))
    (parts : line.left ++ line.right = first ++ c :: rest) (shorter : line.press key = ⟨first, rest⟩) :
    line.box.press? key = some ((line.press key).box, line.answer key) := by
  have chars : line.text.toList = first ++ c :: rest := line.toList_text.trans parts
  have removed : Text.remove? line.text (Text.byteOffset line.text first.length) =
      some (line.press key).text := by
    rw [Text.remove?_eq_some_iff, shorter]
    exact ⟨first, c, rest, chars, Text.byteOffset_eq chars, rfl⟩
  have cursor : (line.press key).cursor = first.length := by rw [shorter, SplitLine.cursor]
  have changed : line.answer key = .changed := by
    apply answer_of_length
    rw [shorter, ← List.length_append, ← List.length_append, parts]
    simp
  rw [pressed, SearchBox.remove?, box, removed, changed, box, cursor]
  rfl

/-- A key that only moves the cursor moves it in the box as in the line. -/
theorem box_moved {cursor : Nat} (goesOn : ¬(key = .enter ∨ key = .escape))
    (pressed : line.box.press? key = some ({ line.box with cursor }, .unchanged))
    (same : (line.press key).left ++ (line.press key).right = line.left ++ line.right)
    (moved : (line.press key).cursor = cursor) :
    line.box.press? key = some ((line.press key).box, line.answer key) := by
  have unchanged : line.answer key = .unchanged := by
    rw [answer, if_neg goesOn, if_pos (by simp only [text, same])]
  rw [pressed, unchanged, box_of_same same, moved]

theorem box_backspace (line : SplitLine) :
    line.box.press? .backspace = some ((line.press .backspace).box, line.answer .backspace) := by
  obtain ⟨left, right⟩ := line
  rcases List.eq_nil_or_concat' left with rfl | ⟨left, c, rfl⟩
  · exact box_moved (by decide) rfl rfl rfl
  · have cursor : (SplitLine.mk (left ++ [c]) right).box.cursor = left.length + 1 :=
      List.length_append
    have parts : left ++ [c] ++ right = left ++ c :: right := by simp
    refine box_shortened ?_ parts (by simp)
    rw [SearchBox.press?_backspace, cursor, if_pos (Nat.succ_pos _), Nat.add_sub_cancel]

theorem box_delete (line : SplitLine) :
    line.box.press? .delete = some ((line.press .delete).box, line.answer .delete) := by
  obtain ⟨left, right⟩ := line
  have cursor : (SplitLine.mk left right).box.cursor = left.length := rfl
  have length : (SplitLine.mk left right).box.text.length = left.length + right.length :=
    length_text _
  cases right with
  | nil =>
    have outside : ¬left.length < left.length + ([] : List Char).length := Nat.lt_irrefl _
    refine box_moved (by decide) ?_ rfl rfl
    rw [SearchBox.press?_delete, cursor, length, if_neg outside]
    rfl
  | cons c right =>
    have inside : left.length < left.length + (c :: right).length := by simp
    refine box_shortened ?_ rfl rfl
    rw [SearchBox.press?_delete, cursor, length, if_pos inside]

theorem box_left (line : SplitLine) :
    line.box.press? .left = some ((line.press .left).box, line.answer .left) := by
  refine box_moved (by decide) rfl ?_ List.length_dropLast
  obtain ⟨left, right⟩ := line
  rcases List.eq_nil_or_concat' left with rfl | ⟨left, c, rfl⟩
  · rfl
  · simp

theorem box_right (line : SplitLine) :
    line.box.press? .right = some ((line.press .right).box, line.answer .right) := by
  obtain ⟨left, right⟩ := line
  refine box_moved (by decide) rfl ?_ ?_
  · cases right <;> simp
  · cases right <;> simp [cursor, box, length_text]

/-- Whatever key is pressed in a box that shows a line, it can be done, and is done as on the line. -/
theorem box_press? (line : SplitLine) (key : Key) :
    line.box.press? key = some ((line.press key).box, line.answer key) := by
  cases key with
  | char c => exact line.box_char c
  | backspace => exact line.box_backspace
  | delete => exact line.box_delete
  | left => exact line.box_left
  | right => exact line.box_right
  | home => exact box_moved (by decide) rfl rfl rfl
  | endKey =>
    refine box_moved (by decide) rfl (List.append_nil _) ?_
    exact List.length_append.trans line.length_text.symm
  | enter => rfl
  | escape => rfl
  | _ => exact box_moved (by decide) rfl rfl rfl

theorem box_press (line : SplitLine) (key : Key) :
    line.box.press key = ((line.press key).box, line.answer key) := by
  rw [SearchBox.press, box_press?, Option.getD_some]

/-! ### Every run -/

theorem box_after (line : SplitLine) (act : SearchBox.Act) :
    line.box.after act = (line.after act).box := by
  cases act with
  | press key => exact congrArg Prod.fst (line.box_press key)
  | set text => exact ofText_box text

theorem box_run (line : SplitLine) (acts : List SearchBox.Act) :
    line.box.run acts = (line.run acts).box := by
  induction acts generalizing line with
  | nil => rfl
  | cons act acts ih =>
    refine Eq.trans ?_ (ih (line.after act))
    rw [← box_after]
    rfl

end SplitLine

namespace SearchBox

variable {box later : SearchBox} {key : Key} {edit : Edit}

/-- No key puts the cursor beyond the text. -/
theorem press_within (within : box.Within) (key : Key) : (box.press key).1.Within := by
  obtain ⟨line, rfl⟩ := SplitLine.exists_box within
  rw [line.box_press]
  exact (line.press key).box_within

/-- A key that is not said to change the text does not. -/
theorem press_keeps_text (within : box.Within) (pressed : box.press key = (later, edit))
    (kept : edit ≠ .changed) : later.text = box.text := by
  obtain ⟨line, rfl⟩ := SplitLine.exists_box within
  rw [line.box_press] at pressed
  cases pressed
  exact Classical.not_not.mp (mt (line.answer_changed_iff key).mpr kept)

/-- Keys are pressed in an empty box, and it is given other texts in between. It has the text and the
cursor of a line that the same was done to, the cursor is in the text, and whatever key comes next can be
done: a character is put in where the text can be cut, and one is taken out where it begins. The answer
says that the text changed exactly if it did, and that the editing is done exactly for enter and escape. -/
theorem box_edits_as_split_line (acts : List Act) :
    let box := empty.run acts
    let line := SplitLine.empty.run acts
    box.text = line.text ∧ box.cursor = line.cursor ∧ box.cursor ≤ box.text.length ∧
      ∀ key, box.press? key = some (box.press key) ∧
        ((box.press key).2 = .changed ↔ (box.press key).1.text ≠ box.text) ∧
        ((box.press key).2 = .done ↔ key = .enter ∨ key = .escape) := by
  intro box line
  have shown : box = line.box := SplitLine.empty.box_run acts
  rw [shown]
  refine ⟨rfl, rfl, line.box_within, fun key => ?_⟩
  rw [line.box_press]
  exact ⟨line.box_press? key, line.answer_changed_iff key, line.answer_done_iff key⟩

/-- Characters of one to four bytes are typed, gone over and taken away at either side of the cursor. -/
example :
    empty.run [.press (.char 'a'), .press (.char 'é'), .press (.char '日'), .press (.char '🎉'),
      .press .left, .press .left, .press .backspace, .press .delete, .press (.char 'ü')] =
        ⟨"aü🎉", 2⟩ := by
  decide +kernel

end SearchBox

end LiveLog
