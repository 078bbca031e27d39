import LiveLog.Proofs.Viewer.Inputs
import LiveLog.Proofs.Viewer.Operations
import LiveLog.Proofs.Viewport.Geometry

/-! The records a viewer materializes are the part of its view that its window spans. The window is a part of the
list, whatever the numbers of its geometry are, and the records are in their places. Where the numbers are exact
the window has every row that is in sight, if only by an edge. -/
namespace LiveLog

namespace Viewer

/-! ### The records of a window -/

section
variable {α : Type} [Scalar α] {viewer : Viewer α}

theorem visibleRecords_eq (exact_ : viewer.buffer.Exact) :
    viewer.visibleRecords =
      (viewer.buffer.view.take viewer.window.stop).drop viewer.window.start :=
  Buffer.slice_eq exact_ _ _

/-- A record of the view is materialized in its place if the window spans its row. -/
theorem visible_at (exact_ : viewer.buffer.Exact) {index : Nat}
    (spanned : viewer.window.start ≤ index ∧ index < viewer.window.stop) :
    viewer.visibleRecords[index - viewer.window.start]? = viewer.buffer.view[index]? := by
  rw [visibleRecords_eq exact_, List.getElem?_drop, Nat.add_sub_cancel' spanned.1,
    List.getElem?_take_of_lt spanned.2]

/-- A window that ends with the view and is not empty has the newest record last. -/
theorem newest_visible (exact_ : viewer.buffer.Exact)
    (start : viewer.window.start < viewer.count) (stop : viewer.window.stop = viewer.count) :
    viewer.visibleRecords.getLast? = viewer.buffer.view.getLast? := by
  have length : viewer.count = viewer.buffer.view.length := Buffer.count_eq exact_
  rw [visibleRecords_eq exact_, stop, length, List.take_length, List.getLast?_drop,
    if_neg (by omega)]

/-- A record whose row is wholly inside the container is materialized. -/
theorem visible_of_shown {viewer : Viewer Rat} (exact_ : viewer.buffer.Exact)
    (tall : 0 < viewer.viewport.layout.rowHeight) {index : Nat} (shows : viewer.viewport.ShowsRow index)
    {record : Record} (found : viewer.buffer.view[index]? = some record) :
    record ∈ viewer.visibleRecords := by
  have bound : index < viewer.count := by
    rw [count, Buffer.count_eq exact_]
    exact (List.getElem?_eq_some_iff.mp found).1
  have spanned := Viewport.shown_row_in_window tall bound shows
  exact List.mem_of_getElem? ((visible_at exact_ spanned).trans found)

end

end Viewer

namespace Viewport

/-! ### Any numbers -/

section
variable {α : Type} [Scalar α]

/-- A window is a part of the list and has no more rows than may be materialized at once. -/
theorem window_in_list (view : Viewport α) (count : Nat) :
    (view.window count).start ≤ (view.window count).stop ∧ (view.window count).stop ≤ count ∧
      (view.window count).length ≤ (view.window count).visibleCount := by
  simp only [window, Window.length]
  omega

/-- Where a window stops, the sum of the rows before it and the rows in it may stop as well at any number
that no list exceeds, such as the largest word. -/
theorem window_stop_saturating (view : Viewport α) {count most : Nat} (fits : count ≤ most) :
    (view.window count).stop =
      min count (min (Scalar.floorCount (view.scrollOffset / view.layout.rowHeight) +
        (view.window count).visibleCount) most) := by
  simp only [window]
  omega

end

/-! ### Exact numbers -/

/-- Some of the row at an index is inside the container. -/
def Overlaps (view : Viewport Rat) (index : Nat) : Prop :=
  view.rows index < view.scrollOffset + view.containerHeight ∧
    view.scrollOffset < view.rows (index + 1)

variable {view : Viewport Rat} {count index : Nat}

/-- A window with a row to spare has every row of the list that is in sight. -/
theorem overlapping_row_in_window (tall : 0 < view.layout.rowHeight)
    (spare : 1 ≤ view.layout.bufferRows) (bound : index < count) (overlaps : view.Overlaps index) :
    (view.window count).start ≤ index ∧ index < (view.window count).stop := by
  have reached := reached_of_rows_le tall overlaps.1.le
  have above : ⌊view.scrollOffset / view.layout.rowHeight⌋₊ < index + 1 := by
    rw [Nat.floor_lt' index.succ_ne_zero, div_lt_iff₀ tall]
    exact overlaps.2
  rw [window_start, window_stop]
  omega

/-- The rows above a window do not reach below the upper edge of the container. -/
theorem offsetTop_le (tall : 0 < view.layout.rowHeight) (nonneg : 0 ≤ view.scrollOffset) :
    (view.window count).offsetTop ≤ view.scrollOffset := by
  have begun : (view.window count).start ≤ ⌊view.scrollOffset / view.layout.rowHeight⌋₊ := by
    rw [window_start]
    exact min_le_left _ _
  calc (view.window count).offsetTop
      = view.rows (view.window count).start := rfl
    _ ≤ view.rows ⌊view.scrollOffset / view.layout.rowHeight⌋₊ := rows_mono tall.le begun
    _ ≤ view.scrollOffset := by
      rw [rows_eq, ← le_div_iff₀ tall]
      exact Nat.floor_le (div_nonneg nonneg tall.le)

end Viewport

namespace Viewer

/-- The records materialized are as many as the window has rows, and each is the one that the view has in
its row. -/
theorem visibleRecords_of_window {α : Type} [Scalar α] {viewer : Viewer α}
    (exact_ : viewer.buffer.Exact) :
    viewer.visibleRecords.length = viewer.window.length ∧
      ∀ place < viewer.window.length,
        viewer.visibleRecords[place]? = viewer.buffer.view[viewer.window.start + place]? := by
  obtain ⟨ordered, within, -⟩ := Viewport.window_in_list viewer.viewport viewer.count
  change viewer.window.start ≤ viewer.window.stop at ordered
  change viewer.window.stop ≤ viewer.count at within
  constructor
  · rw [count, Buffer.count_eq exact_] at within
    rw [visibleRecords_eq exact_, List.length_drop, List.length_take, Nat.min_eq_left within]
    rfl
  · intro place inside
    simp only [Window.length] at inside
    have spanned : viewer.window.start ≤ viewer.window.start + place ∧
        viewer.window.start + place < viewer.window.stop := by omega
    have shown := visible_at exact_ spanned
    rwa [Nat.add_sub_cancel_left] at shown

/-- Whatever the numbers are, a window is a part of its list of at most as many rows as may be
materialized, also if the sum that ends it saturates; and whatever was done to a viewer, it materializes
exactly the records that its view has in the rows of its window. If the numbers are exact and a row is
kept to spare, a legal offset leaves no row in sight out of the window, and the rows above the window end
where the container begins or before. -/
theorem window_in_range_without_gap :
    (∀ (α : Type) [Scalar α] (view : Viewport α) (count : Nat),
      let window := view.window count
      window.start ≤ window.stop ∧ window.stop ≤ count ∧
        window.stop - window.start ≤ window.visibleCount ∧
        ∀ most, count ≤ most → window.stop =
          min count (min (Scalar.floorCount (view.scrollOffset / view.layout.rowHeight) +
            window.visibleCount) most)) ∧
    (∀ (α : Type) [Scalar α] (job : String) (layout : Layout α) (showDebug : Bool)
        (operations : List (Operation α)),
      let viewer := (new job layout showDebug).run operations
      let window := viewer.viewport.window viewer.buffer.view.length
      viewer.visibleRecords.length = window.stop - window.start ∧
        ∀ place < window.stop - window.start,
          viewer.visibleRecords[place]? = viewer.buffer.view[window.start + place]?) ∧
    (∀ (view : Viewport Rat) (count : Nat), 0 < view.layout.rowHeight →
      1 ≤ view.layout.bufferRows → 0 ≤ view.containerHeight → view.Legal count →
      let window := view.window count
      (window.offsetTop = window.start * view.layout.rowHeight ∧
        window.offsetTop ≤ view.scrollOffset) ∧
      ∀ index < count,
        index * view.layout.rowHeight < view.scrollOffset + view.containerHeight →
        view.scrollOffset < (index + 1 : Nat) * view.layout.rowHeight →
        window.start ≤ index ∧ index < window.stop) := by
  refine ⟨?range, ?records, ?rows⟩
  case range =>
    intro α _ view count window
    obtain ⟨ordered, within, bounded⟩ := Viewport.window_in_list view count
    refine ⟨ordered, within, bounded, ?_⟩
    intro most fits
    exact Viewport.window_stop_saturating view fits
  case records =>
    intro α _ job layout showDebug operations viewer window
    have started : (new job layout showDebug).buffer.Exact := rfl
    have exact_ : viewer.buffer.Exact := run_exact started operations
    have same : window = viewer.window := by
      rw [Viewer.window, count, Buffer.count_eq exact_]
    rw [same]
    exact visibleRecords_of_window exact_
  case rows =>
    intro view count tall spare _ legal window
    refine ⟨⟨rfl, Viewport.offsetTop_le tall legal.1⟩, ?_⟩
    intro index bound begins ends
    exact Viewport.overlapping_row_in_window tall spare bound ⟨begins, ends⟩

/-- Six rows of twenty in a container of fifty, scrolled to thirty-five: the rows from the second to the
fifth are in sight, the outer ones in part. Three rows fill the container, so that the last of them is the
one kept to spare. -/
theorem four_rows_in_sight_at_thirty_five :
    let viewer := (new "job" (⟨20, 1, 10, 100⟩ : Layout Rat) false).run
      [.input (.action (.resize 50)),
        .append [⟨"12:00:00.0", "a", .info, 1⟩, ⟨"12:00:00.1", "b", .info, 2⟩,
          ⟨"12:00:00.2", "c", .info, 3⟩, ⟨"12:00:00.3", "d", .info, 4⟩,
          ⟨"12:00:00.4", "e", .info, 5⟩, ⟨"12:00:00.5", "f", .info, 6⟩],
        .input (.action (.scrollTo 35 0))]
    let view := viewer.viewport
    let rows := viewer.buffer.view.length
    let window := view.window rows
    0 < view.layout.rowHeight ∧ 1 ≤ view.layout.bufferRows ∧ 0 ≤ view.containerHeight ∧
      view.Legal rows ∧ rows ≤ 2 ^ 64 - 1 ∧ window.start = 1 ∧ window.stop = 5 ∧
      (window.stop = min rows (min (Scalar.floorCount (view.scrollOffset / view.layout.rowHeight) +
        window.visibleCount) (2 ^ 64 - 1))) ∧
      viewer.visibleRecords[3]? = viewer.buffer.view[window.start + 3]? ∧
      (window.offsetTop = window.start * view.layout.rowHeight ∧
        window.offsetTop ≤ view.scrollOffset) ∧
      window.start ≤ 4 ∧ 4 < window.stop := by
  intro viewer view rows window
  have tall : 0 < view.layout.rowHeight := by decide +kernel
  have spare : 1 ≤ view.layout.bufferRows := by decide +kernel
  have nonneg : 0 ≤ view.containerHeight := by decide +kernel
  have legal : view.Legal rows := ⟨by decide +kernel, by decide +kernel⟩
  have counted : rows ≤ 2 ^ 64 - 1 := by decide +kernel
  obtain ⟨range, records, covered⟩ := window_in_range_without_gap
  obtain ⟨top, inSight⟩ := covered view rows tall spare nonneg legal
  exact ⟨tall, spare, nonneg, legal, counted, by decide +kernel, by decide +kernel,
    (range Rat view rows).2.2.2 (2 ^ 64 - 1) counted,
    (records Rat "job" _ false _).2 3 (by decide +kernel), top,
    inSight 4 (by decide +kernel) (by decide +kernel) (by decide +kernel)⟩

end Viewer

end LiveLog
