import LiveLog.Proofs.Viewer.Offset
import LiveLog.Proofs.Viewer.OpenedLine
import Mathlib.Logic.Function.Iterate

/-! The selection is moved by rows and kept as a line. A move goes to the row so many places on, and shows
it; but the next one starts from the first row of the line selected. Where a stream delivered a line again
the two rows differ, and steps down the list fall back to the earlier one: they reach the end of the list
exactly if every row below the selection is the first of its line. -/
namespace LiveLog

/-- The row at a position of a view is the first one of its line. -/
def Buffer.FirstOfLine (view : List Record) (position : Nat) : Prop :=
  ∃ line, Buffer.FirstShows view line position

namespace Viewer

section
variable {α : Type} {viewer : Viewer α} {row : Nat}

/-- The row from which the selection is moved: the first one of the line selected. -/
def selectedRow? (viewer : Viewer α) : Option Nat :=
  viewer.viewport.selectedLine >>= viewer.buffer.position?

/-- The row of the selection is a row of the view, the first one of its line. -/
theorem selectedRow_first (exact_ : viewer.buffer.Exact) (found : viewer.selectedRow? = some row) :
    Buffer.FirstOfLine viewer.buffer.view row := by
  obtain ⟨line, -, first⟩ := Option.bind_eq_some_iff.mp found
  exact ⟨line, (Buffer.firstShows_iff exact_ line row).mp first⟩

theorem selectedRow_lt (exact_ : viewer.buffer.Exact) (found : viewer.selectedRow? = some row) :
    row < viewer.count := by
  obtain ⟨line, shows, -⟩ := selectedRow_first exact_ found
  rw [count, Buffer.count_eq exact_]
  exact Buffer.lt_length_of_shows shows

variable [Scalar α]

/-- The viewer after so many steps of the selection, each to the next row. -/
def steppedDown (viewer : Viewer α) (steps : Nat) : Viewer α :=
  (fun stepped => (stepped.moveSelection 1).1)^[steps] viewer

theorem steppedDown_succ (viewer : Viewer α) (steps : Nat) :
    viewer.steppedDown (steps + 1) = ((viewer.steppedDown steps).moveSelection 1).1 :=
  Function.iterate_succ_apply' _ _ _

theorem steppedDown_buffer (viewer : Viewer α) (steps : Nat) :
    (viewer.steppedDown steps).buffer = viewer.buffer := by
  induction steps with
  | zero => rfl
  | succ steps ih => rw [steppedDown_succ, moveSelection_buffer, ih]

/-- Without a selected line in the view a move changes nothing and tells no location. -/
theorem moveSelection_nowhere (unfound : viewer.selectedRow? = none) (steps : Int) :
    viewer.moveSelection steps = (viewer, none) := by
  unfold selectedRow? at unfound
  simp only [moveSelection, unfound]

/-- The target of a move is as many rows on as asked for, as far as the list goes. -/
theorem stepTarget_eq {count row target : Nat} {steps : Int}
    (aimed : (target : Int) = min (max (row + steps) 0) (count - 1)) :
    stepTarget count row steps = target := by
  rw [stepTarget]
  omega

/-- A move from a row selects the line of the row it goes to, and shows that row. -/
theorem moveSelection_from (exact_ : viewer.buffer.Exact) (found : viewer.selectedRow? = some row)
    (steps : Int) {target : Nat} (aimed : (target : Int) = min (max (row + steps) 0) (viewer.count - 1)) :
    ∃ record, viewer.buffer.view[target]? = some record ∧
      viewer.moveSelection steps =
        ({ viewer with
            viewport :=
              { viewer.viewport with followTail := false }.reveal target viewer.count }.selectLine
          (some record.sequence), some ⟨viewer.job, some record.sequence⟩) := by
  have start := selectedRow_lt exact_ found
  have bound : target < viewer.buffer.view.length := by
    rw [← Buffer.count_eq exact_, ← count]
    omega
  have present := List.getElem?_eq_getElem bound
  refine ⟨viewer.buffer.view[target], present, ?_⟩
  have fetched := (Buffer.get_eq exact_ target).trans present
  unfold selectedRow? at found
  simp only [moveSelection, found, stepTarget_eq aimed, fetched]
  rfl

/-- After a move the selection rests at the first row of the line moved to, which may lie above the row
moved to but not below. -/
theorem moveSelection_rests (exact_ : viewer.buffer.Exact) (found : viewer.selectedRow? = some row)
    (steps : Int) {target : Nat} (aimed : (target : Int) = min (max (row + steps) 0) (viewer.count - 1)) :
    ∃ rest ≤ target, (viewer.moveSelection steps).1.selectedRow? = some rest ∧
      (rest = target ↔ Buffer.FirstOfLine viewer.buffer.view target) := by
  obtain ⟨record, present, moved⟩ := moveSelection_from exact_ found steps aimed
  have shows : Buffer.ShowsLine viewer.buffer.view record.sequence target := ⟨record, present, rfl⟩
  obtain ⟨rest, first⟩ := Buffer.exists_firstShows exact_ ⟨record, List.mem_of_getElem? present, rfl⟩
  refine ⟨rest, first.2 shows, ?_, ?_⟩
  · rw [moved]
    exact (Buffer.firstShows_iff exact_ record.sequence rest).mpr first
  · constructor
    · rintro rfl
      exact ⟨record.sequence, first⟩
    · rintro ⟨line, itself⟩
      obtain ⟨other, presentToo, rfl⟩ := itself.1
      obtain rfl : record = other := Option.some.inj (present.symm.trans presentToo)
      exact first.unique itself

/-- One more step goes to the next row, and from the last row nowhere else. -/
theorem steppedDown_step (exact_ : viewer.buffer.Exact) {steps : Nat}
    (found : (viewer.steppedDown steps).selectedRow? = some row) :
    ∃ rest ≤ min (row + 1) (viewer.count - 1),
      (viewer.steppedDown (steps + 1)).selectedRow? = some rest ∧
        (rest = min (row + 1) (viewer.count - 1) ↔
          Buffer.FirstOfLine viewer.buffer.view (min (row + 1) (viewer.count - 1))) := by
  have same := viewer.steppedDown_buffer steps
  have exactThere : (viewer.steppedDown steps).buffer.Exact := by rwa [same]
  have sameCount : (viewer.steppedDown steps).count = viewer.count := congrArg Buffer.count same
  have start := sameCount ▸ selectedRow_lt exactThere found
  have aimed : ((min (row + 1) (viewer.count - 1) : Nat) : Int) =
      min (max ((row : Int) + 1) 0) ((viewer.steppedDown steps).count - 1) := by
    rw [sameCount]
    omega
  have rests := moveSelection_rests exactThere found 1 aimed
  rwa [same, ← steppedDown_succ] at rests

/-- Where every row below the selection is the first of its line, each step goes one row on. -/
theorem steppedDown_reaches (exact_ : viewer.buffer.Exact) (found : viewer.selectedRow? = some row)
    (first : ∀ below, row < below → below < viewer.count →
      Buffer.FirstOfLine viewer.buffer.view below) (steps : Nat) :
    (viewer.steppedDown steps).selectedRow? = some (min (row + steps) (viewer.count - 1)) := by
  have start := selectedRow_lt exact_ found
  induction steps with
  | zero =>
    rw [show min (row + 0) (viewer.count - 1) = row by omega]
    exact found
  | succ steps ih =>
    obtain ⟨rest, -, rests, stays⟩ := steppedDown_step exact_ ih
    have target : min (min (row + steps) (viewer.count - 1) + 1) (viewer.count - 1) =
        min (row + (steps + 1)) (viewer.count - 1) := by omega
    rw [target] at stays
    have reached : Buffer.FirstOfLine viewer.buffer.view
        (min (row + (steps + 1)) (viewer.count - 1)) := by
      by_cases last : row = viewer.count - 1
      · rw [show min (row + (steps + 1)) (viewer.count - 1) = row by omega]
        exact selectedRow_first exact_ found
      · exact first _ (by omega) (by omega)
    rw [rests, stays.mpr reached]

/-- Steps do not get past a row whose line came before: they fall back from it. -/
theorem steppedDown_held (exact_ : viewer.buffer.Exact) (found : viewer.selectedRow? = some row)
    {again : Nat} (below : row < again) (repeated : ¬ Buffer.FirstOfLine viewer.buffer.view again)
    (steps : Nat) : ∃ rest < again, (viewer.steppedDown steps).selectedRow? = some rest := by
  induction steps with
  | zero => exact ⟨row, below, found⟩
  | succ steps ih =>
    obtain ⟨rest, above, rests⟩ := ih
    obtain ⟨next, within, restsNext, stays⟩ := steppedDown_step exact_ rests
    refine ⟨next, ?_, restsNext⟩
    -- The step goes no further down than to this row, and here it does not rest.
    by_contra beyond
    have there : min (rest + 1) (viewer.count - 1) = again := by omega
    rw [there] at stays
    exact repeated (stays.mp (by omega))

/-- As many steps as there are rows lead to the last one exactly if every row below the selection is the
first of its line. -/
theorem steppedDown_last_iff (exact_ : viewer.buffer.Exact) (found : viewer.selectedRow? = some row)
    {steps : Nat} (enough : viewer.count ≤ steps) :
    (viewer.steppedDown steps).selectedRow? = some (viewer.count - 1) ↔
      ∀ below, row < below → below < viewer.count →
        Buffer.FirstOfLine viewer.buffer.view below := by
  constructor
  · intro last below after within
    by_contra repeated
    obtain ⟨rest, above, rests⟩ := steppedDown_held exact_ found after repeated steps
    obtain rfl : rest = viewer.count - 1 := Option.some.inj (rests.symm.trans last)
    omega
  · intro first
    rw [steppedDown_reaches exact_ found first steps]
    congr 1
    omega

end

variable {viewer : Viewer Rat}

/-- A move of the selection goes to a row: it tells the location of the record there and shows the row,
without following the end. -/
structure MovesTo (viewer : Viewer Rat) (steps : Int) (row : Nat) : Prop where
  kept : (viewer.moveSelection steps).1.buffer = viewer.buffer
  told : ∃ record, viewer.buffer.view[row]? = some record ∧
    (viewer.moveSelection steps).2 = some ⟨viewer.job, some record.sequence⟩ ∧
      record ∈ (viewer.moveSelection steps).1.visibleRecords
  unfollowed : (viewer.moveSelection steps).1.viewport.followTail = false
  shown : (viewer.moveSelection steps).1.viewport.ShowsRow row
  /-- The next move starts from this row if no row above it has the same line. -/
  rests_iff : (viewer.moveSelection steps).1.selectedRow? = some row ↔
    Buffer.FirstOfLine viewer.buffer.view row

/-- In a container that holds a row, a move from a selected row goes to the row as many places on as asked
for, as far as the list goes. -/
theorem movesTo_target (exact_ : viewer.buffer.Exact) (tall : 0 < viewer.viewport.layout.rowHeight)
    (fits : viewer.viewport.layout.rowHeight ≤ viewer.viewport.containerHeight)
    (legal : viewer.viewport.Legal viewer.count) {row target : Nat}
    (found : viewer.selectedRow? = some row) (steps : Int)
    (aimed : (target : Int) = min (max (row + steps) 0) (viewer.count - 1)) :
    viewer.MovesTo steps target := by
  obtain ⟨record, present, moved⟩ := moveSelection_from exact_ found steps aimed
  obtain ⟨rest, -, rests, stays⟩ := moveSelection_rests exact_ found steps aimed
  have start := selectedRow_lt exact_ found
  have bound : target < viewer.count := by omega
  have revealed : ({ viewer.viewport with followTail := false }.reveal target viewer.count).ShowsRow
      target := Viewport.reveal_shows tall fits bound legal
  have shown : (viewer.moveSelection steps).1.viewport.ShowsRow target := by
    rw [moved]
    exact revealed
  refine ⟨viewer.moveSelection_buffer steps, ⟨record, present, ?_, ?_⟩, ?_, shown, ?_⟩
  · rw [moved]
  · have same := viewer.moveSelection_buffer steps
    refine visible_of_shown (by rwa [same]) ?_ shown (by rwa [same])
    rw [moved]
    exact tall
  · rw [moved]
    rfl
  · rw [rests, Option.some.injEq, stays]

/-- Whatever was done to a viewer, without a selected line in the view a move changes nothing and tells
nothing. In a container that holds a row, a move from the row of the selected line goes to the row as many
places on as asked for, as far as the list goes, and the next move starts there exactly if no row above
has the same line. So as many steps as there are rows end at the last one exactly if every row below the
selection is the first of its line; no number of steps gets past a row that is not. -/
theorem selection_steps_to_last_iff (layout : Layout Rat) (tall : 0 < layout.rowHeight)
    (job : String) (showDebug : Bool) (operations : List (Operation Rat)) :
    let viewer := (new job layout showDebug).run operations
    (viewer.selectedRow? = none → ∀ steps, viewer.moveSelection steps = (viewer, none)) ∧
      (layout.rowHeight ≤ viewer.viewport.containerHeight →
        ∀ row, viewer.selectedRow? = some row →
          (∀ (steps : Int) (target : Nat),
            (target : Int) = min (max (row + steps) 0) (viewer.count - 1) →
              viewer.MovesTo steps target) ∧
          (∀ steps, viewer.count ≤ steps →
            ((viewer.steppedDown steps).selectedRow? = some (viewer.count - 1) ↔
              ∀ below, row < below → below < viewer.count →
                Buffer.FirstOfLine viewer.buffer.view below)) ∧
          ∀ again, row < again → ¬ Buffer.FirstOfLine viewer.buffer.view again →
            ∀ steps, ∃ rest < again, (viewer.steppedDown steps).selectedRow? = some rest) := by
  intro viewer
  have started : (new job layout showDebug).buffer.Exact := rfl
  have exact_ : viewer.buffer.Exact := run_exact started operations
  have same : viewer.viewport.layout = layout := (run_steady job layout showDebug operations).2
  have legal := run_legal layout tall.le job showDebug operations
  refine ⟨moveSelection_nowhere, fun fits row found => ⟨?_, ?_, ?_⟩⟩
  · intro steps target aimed
    exact movesTo_target exact_ (by rwa [same]) (by rwa [same]) legal found steps aimed
  · exact fun steps enough => steppedDown_last_iff exact_ found enough
  · exact fun again below repeated steps => steppedDown_held exact_ found below repeated steps

/-- Four rows with the lines 1, 2, 1, 3, of which the container holds one, and the second is selected. A
move up goes to the first row and rests there. A step down goes to the third row, whose line came before,
and no number of steps gets past it. -/
theorem steps_held_by_line_sent_again :
    let layout : Layout Rat := ⟨20, 2, 10, 100⟩
    let line (n : UInt64) : Record := ⟨"12:00:00.0", "a", .info, n⟩
    let operations : List (Operation Rat) :=
      [.input (.action (.resize 20)), .append [line 1, line 2], .append [line 1, line 3],
        .input (.action (.selectLine (some 2)))]
    let viewer := (new "job" layout false).run operations
    0 < layout.rowHeight ∧ layout.rowHeight ≤ viewer.viewport.containerHeight ∧
      viewer.selectedRow? = some 1 ∧ viewer.MovesTo (-7) 0 ∧ viewer.MovesTo 1 2 ∧
      (viewer.moveSelection (-7)).1.selectedRow? = some 0 ∧
      (viewer.moveSelection 1).1.selectedRow? = some 0 ∧
      (viewer.selectLine none).moveSelection 1 = (viewer.selectLine none, none) ∧
      (viewer.steppedDown 4).selectedRow? ≠ some 3 ∧
      ∀ steps, ∃ rest < 2, (viewer.steppedDown steps).selectedRow? = some rest := by
  intro layout line operations viewer
  have tall : 0 < layout.rowHeight := by decide
  have fits : layout.rowHeight ≤ viewer.viewport.containerHeight := by decide +kernel
  have found : viewer.selectedRow? = some 1 := by decide +kernel
  have four : viewer.count = 4 := by decide +kernel
  have view : viewer.buffer.view = [line 1, line 2, line 1, line 3] := by decide +kernel
  obtain ⟨-, moves⟩ := selection_steps_to_last_iff layout tall "job" false operations
  obtain ⟨goes, last_iff, held⟩ := moves fits 1 found
  obtain ⟨nowhere, -⟩ := selection_steps_to_last_iff layout tall "job" false
    (operations ++ [.input (.action (.selectLine none))])
  have repeated : ¬ Buffer.FirstOfLine viewer.buffer.view 2 := by
    rintro ⟨_, ⟨record, third, rfl⟩, least⟩
    rw [view] at third
    have first : Buffer.ShowsLine viewer.buffer.view record.sequence 0 :=
      ⟨line 1, by rw [view]; rfl, by rw [← Option.some.inj third]⟩
    exact absurd (least first) (by decide)
  refine ⟨tall, fits, found, goes (-7) 0 (by rw [four]; rfl), goes 1 2 (by rw [four]; rfl),
    by decide +kernel, by decide +kernel, nowhere (by decide +kernel) 1, ?_,
    held 2 (by decide) repeated⟩
  intro reached
  have reached : (viewer.steppedDown 4).selectedRow? = some (viewer.count - 1) := by rwa [four]
  exact repeated ((last_iff 4 four.le).mp reached 2 (by decide) (by rw [four]; decide))

/-- A stream that was opened again delivered the lines 1 and 2 again, and then line 3. From the first of
the five rows a move by two goes to the third row, but the next move starts from the first one again; and
five steps, each to the next row, end at the second row and not at the last. -/
theorem steps_fall_back_after_redelivery :
    let layout : Layout Rat := ⟨20, 2, 10, 100⟩
    let line (n : UInt64) : Record := ⟨"12:00:00.0", "a", .info, n⟩
    let viewer := (new "job" layout false).run
      [.input (.action (.resize 100)), .append [line 1, line 2], .append [line 1, line 2, line 3],
        .input (.action (.selectLine (some 1)))]
    0 < layout.rowHeight ∧ layout.rowHeight ≤ viewer.viewport.containerHeight ∧
      viewer.selectedRow? = some 0 ∧ viewer.count = 5 ∧
      (viewer.moveSelection 2).2 = some ⟨"job", some 1⟩ ∧
        (viewer.moveSelection 2).1.selectedRow? = some 0 ∧
      (viewer.steppedDown 5).selectedRow? = some 1 := by
  intro layout line viewer
  exact ⟨by decide, by decide +kernel⟩

end Viewer
end LiveLog
