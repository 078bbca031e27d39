import LiveLog.Proofs.Viewer.Offset

/-! A viewer that stands on whole rows: its offset and the height of its container are whole numbers of
rows. The end of a list is then a whole number of rows away from its top, and every place an operation
brings the view to is measured in rows, from the top, from the end, or from where the view was. What can
take it off its rows is a resize to a broken number of rows, and a scroll to an offset between two
rows. -/
namespace LiveLog

/-- A whole number of rows. -/
def Layout.Whole (layout : Layout Rat) (length : Rat) : Prop :=
  ∃ rows : Int, length = rows * layout.rowHeight

namespace Layout.Whole

variable {layout : Layout Rat} {x y : Rat}

theorem zero (layout : Layout Rat) : layout.Whole 0 :=
  ⟨0, by rw [Int.cast_zero, zero_mul]⟩

theorem natural (layout : Layout Rat) (rows : Nat) : layout.Whole (rows * layout.rowHeight) :=
  ⟨rows, by rw [Int.cast_natCast]⟩

theorem add (first : layout.Whole x) (second : layout.Whole y) : layout.Whole (x + y) := by
  obtain ⟨m, rfl⟩ := first
  obtain ⟨n, rfl⟩ := second
  exact ⟨m + n, by rw [Int.cast_add, add_mul]⟩

theorem sub (first : layout.Whole x) (second : layout.Whole y) : layout.Whole (x - y) := by
  obtain ⟨m, rfl⟩ := first
  obtain ⟨n, rfl⟩ := second
  exact ⟨m - n, by rw [Int.cast_sub, sub_mul]⟩

theorem max (first : layout.Whole x) (second : layout.Whole y) : layout.Whole (max x y) := by
  rcases max_choice x y with same | same <;> rw [same]
  · exact first
  · exact second

theorem min (first : layout.Whole x) (second : layout.Whole y) : layout.Whole (min x y) := by
  rcases min_choice x y with same | same <;> rw [same]
  · exact first
  · exact second

/-- A length that is not negative has a natural number of rows. -/
theorem exists_nat (whole : layout.Whole x) (tall : 0 < layout.rowHeight) (nonneg : 0 ≤ x) :
    ∃ rows : Nat, x = rows * layout.rowHeight := by
  obtain ⟨rows, rfl⟩ := whole
  have counted : 0 ≤ rows := Int.cast_nonneg_iff.mp (nonneg_of_mul_nonneg_left nonneg tall)
  obtain ⟨count, rfl⟩ := Int.eq_ofNat_of_zero_le counted
  exact ⟨count, by rw [Int.cast_natCast]⟩

end Layout.Whole

/-- A length is a whole number of rows if a row divides it. -/
theorem Layout.whole_iff (layout : Layout Rat) (length : Rat) :
    layout.Whole length ↔
      (layout.rowHeight = 0 → length = 0) ∧ (length / layout.rowHeight).den = 1 := by
  constructor
  · rintro ⟨rows, rfl⟩
    by_cases flat : layout.rowHeight = 0
    · simp [flat]
    · rw [mul_div_cancel_right₀ _ flat]
      exact ⟨fun contrary => absurd contrary flat, Rat.den_intCast rows⟩
  · rintro ⟨empty, whole⟩
    by_cases flat : layout.rowHeight = 0
    · exact ⟨0, by rw [empty flat, Int.cast_zero, zero_mul]⟩
    · refine ⟨(length / layout.rowHeight).num, ?_⟩
      rw [Rat.den_eq_one_iff _ |>.mp whole, div_mul_cancel₀ _ flat]

instance (layout : Layout Rat) (length : Rat) : Decidable (layout.Whole length) :=
  decidable_of_iff' _ (layout.whole_iff length)

namespace Viewport

/-- The offset and the height of the container are whole numbers of rows. -/
structure OnRows (view : Viewport Rat) : Prop where
  offset_whole : view.layout.Whole view.scrollOffset
  height_whole : view.layout.Whole view.containerHeight

variable {view : Viewport Rat}

theorem new_onRows (layout : Layout Rat) : (new layout).OnRows :=
  ⟨.zero layout, .zero layout⟩

theorem rows_whole (view : Viewport Rat) (count : Nat) : view.layout.Whole (view.rows count) :=
  .natural view.layout count

theorem OnRows.maxScroll (onRows : view.OnRows) (count : Nat) :
    view.layout.Whole (view.maxScroll count) := by
  rw [maxScroll_eq]
  exact (Layout.Whole.zero _).max ((view.rows_whole count).sub onRows.height_whole)

/-- Where a scroll to an offset ends is a whole number of rows if the offset is one, or if it lies beyond
the end. -/
theorem OnRows.clampOffset (onRows : view.OnRows) (count : Nat) {target : Rat}
    (reached : view.layout.Whole target ∨ view.maxScroll count ≤ target) :
    view.layout.Whole (view.clampOffset count target) := by
  rw [clampOffset_eq]
  refine (Layout.Whole.zero _).max ?_
  rcases reached with whole | beyond
  · exact whole.min (onRows.maxScroll count)
  · rw [min_eq_right beyond]
    exact onRows.maxScroll count

theorem OnRows.scrollToBottom (onRows : view.OnRows) (count : Nat) :
    (view.scrollToBottom count).OnRows :=
  ⟨onRows.maxScroll count, onRows.height_whole⟩

theorem OnRows.afterAppend (onRows : view.OnRows) (count : Nat) :
    (view.afterAppend count).OnRows := by
  unfold Viewport.afterAppend
  split
  · exact onRows.scrollToBottom count
  · exact onRows

theorem OnRows.clamp (onRows : view.OnRows) (count : Nat) : (view.clamp count).OnRows :=
  ⟨onRows.clampOffset count (.inl onRows.offset_whole), onRows.height_whole⟩

theorem OnRows.scrollTo (onRows : view.OnRows) (count now : Nat) {target : Rat}
    (reached : view.layout.Whole target ∨ view.maxScroll count ≤ target) :
    (view.scrollTo target count now).OnRows :=
  ⟨onRows.clampOffset count reached, onRows.height_whole⟩

theorem OnRows.scrollByRows (onRows : view.OnRows) (steps : Int) (count now : Nat) :
    (view.scrollByRows steps count now).OnRows :=
  onRows.scrollTo count now (.inl (onRows.offset_whole.add ⟨steps, rfl⟩))

theorem OnRows.settle (onRows : view.OnRows) (count now : Nat) :
    (view.settle count now).OnRows := by
  unfold Viewport.settle
  split
  · split
    · exact ⟨onRows.offset_whole, onRows.height_whole⟩
    · exact onRows
  · exact onRows

theorem OnRows.resize (onRows : view.OnRows) {height : Rat} (whole : view.layout.Whole height)
    (count : Nat) : (view.resize height count).OnRows := by
  have sized : { view with containerHeight := Scalar.atLeastZero height }.OnRows := by
    refine ⟨onRows.offset_whole, ?_⟩
    rw [Scalar.atLeastZero_eq]
    exact (Layout.Whole.zero _).max whole
  unfold Viewport.resize
  split
  · exact sized.scrollToBottom count
  · exact sized.clamp count

theorem OnRows.resetToTop (onRows : view.OnRows) : view.resetToTop.OnRows :=
  ⟨.zero _, onRows.height_whole⟩

theorem OnRows.setFollowTail (onRows : view.OnRows) (follow : Bool) (count : Nat) :
    (view.setFollowTail follow count).OnRows := by
  have set : { view with followTail := follow, settleAt := none }.OnRows :=
    ⟨onRows.offset_whole, onRows.height_whole⟩
  unfold Viewport.setFollowTail
  dsimp only
  split
  · exact set.scrollToBottom count
  · exact set

/-- A row is shown at the upper edge or at the lower one, or the view stays. -/
theorem OnRows.reveal (onRows : view.OnRows) (index count : Nat) :
    (view.reveal index count).OnRows := by
  refine ⟨?_, onRows.height_whole⟩
  rw [reveal_offset]
  refine onRows.clampOffset count (.inl ?_)
  split
  · exact view.rows_whole index
  · split
    · exact (view.rows_whole (index + 1)).sub onRows.height_whole
    · exact onRows.offset_whole

end Viewport

namespace Viewer

variable {viewer : Viewer Rat}

/-- An operation that keeps to whole rows: a scroll to an offset goes to a row or beyond the end, and a
resize takes a whole number of rows. -/
def ByRows (viewer : Viewer Rat) : Operation Rat → Prop
  | .input (.action (.scrollTo offset _)) =>
    viewer.viewport.layout.Whole offset ∨ viewer.viewport.maxScroll viewer.count ≤ offset
  | .input (.action (.resize height)) => viewer.viewport.layout.Whole height
  | _ => True

theorem append_onRows (onRows : viewer.viewport.OnRows) (records : List Record) :
    (viewer.append records).viewport.OnRows := by
  by_cases some_ : records = []
  · subst some_
    exact onRows
  · have grown : (viewer.grown records).viewport.OnRows := onRows.afterAppend _
    rcases viewer.append_cases some_ with ⟨plain, -⟩ | ⟨-, -, line, position, -, -, shown⟩
    · rw [plain]
      exact grown
    · rw [shown]
      exact grown.reveal position _

theorem revealSelected_onRows (onRows : viewer.viewport.OnRows) :
    viewer.revealSelected.viewport.OnRows := by
  unfold revealSelected
  split
  · exact onRows
  · split
    · exact onRows.reveal _ _
    · exact onRows

theorem setSearch_onRows (onRows : viewer.viewport.OnRows) (text : String) :
    (viewer.setSearch text).viewport.OnRows := by
  by_cases same : viewer.buffer.filter.text = text
  · rwa [show viewer.setSearch text = viewer from if_pos same]
  · have sought : (viewer.searched text).viewport.OnRows := by
      simp only [searched]
      split
      · exact onRows.resetToTop
      · split
        · exact onRows.scrollToBottom _
        · exact onRows.clamp _
    rw [viewer.setSearch_eq same]
    split
    · exact revealSelected_onRows sought
    · exact sought

theorem moveSelection_onRows (onRows : viewer.viewport.OnRows) (steps : Int) :
    (viewer.moveSelection steps).1.viewport.OnRows := by
  unfold moveSelection
  split
  · exact onRows
  · rename_i current _
    dsimp only
    split
    · exact onRows
    · have unfollowed : { viewer.viewport with followTail := false }.OnRows :=
        ⟨onRows.offset_whole, onRows.height_whole⟩
      have shown := unfollowed.reveal (stepTarget viewer.count current steps) viewer.count
      exact ⟨shown.offset_whole, shown.height_whole⟩

/-- An operation that keeps to whole rows leaves the view on whole rows. -/
theorem after_onRows (onRows : viewer.viewport.OnRows) (operation : Operation Rat)
    (byRows : viewer.ByRows operation) : (viewer.after operation).viewport.OnRows := by
  have flagged {view : Viewport Rat} (layout : view.layout = viewer.viewport.layout)
      (offset : view.scrollOffset = viewer.viewport.scrollOffset)
      (height : view.containerHeight = viewer.viewport.containerHeight) : view.OnRows :=
    ⟨by rw [layout, offset]; exact onRows.offset_whole,
      by rw [layout, height]; exact onRows.height_whole⟩
  cases operation with
  | append records => exact append_onRows onRows records
  | scrollToTop now => exact onRows.scrollTo _ now (.inl (.zero _))
  | input input =>
    cases input with
    | event event =>
      obtain ⟨status, applied⟩ := viewer.apply_appends event
      rw [after, fed, applied]
      exact append_onRows onRows event.records
    | settled now => exact onRows.settle _ now
    | action action =>
      cases action with
      | setSearch text => exact setSearch_onRows onRows text
      | setShowDebug showDebug =>
        rw [after, fed, acted, setShowDebug]
        split
        · exact onRows
        · exact onRows.resetToTop.setFollowTail true _
      | toggleFollowTail => exact onRows.setFollowTail _ _
      | selectLine line => exact flagged rfl rfl rfl
      | moveSelection steps => exact moveSelection_onRows onRows steps
      | openAt line => exact revealSelected_onRows (flagged rfl rfl rfl)
      | toggleFullscreen => exact flagged rfl rfl rfl
      | exitFullscreen => exact flagged rfl rfl rfl
      | scrollByRows steps now => exact onRows.scrollByRows steps _ now
      | scrollTo offset now => exact onRows.scrollTo _ now byRows
      | resize height => exact onRows.resize byRows _

/-- A viewer that became what it is by operations, and stands on whole rows. -/
structure Regular (layout : Layout Rat) (viewer : Viewer Rat) : Prop where
  arises : ∃ job showDebug operations, viewer = (new job layout showDebug).run operations
  on_rows : viewer.viewport.OnRows

variable {layout : Layout Rat}

theorem new_regular (layout : Layout Rat) (job : String) (showDebug : Bool) :
    (new job layout showDebug).Regular layout :=
  ⟨⟨job, showDebug, [], rfl⟩, Viewport.new_onRows layout⟩

theorem Regular.after (regular : viewer.Regular layout) (operation : Operation Rat)
    (byRows : viewer.ByRows operation) : (viewer.after operation).Regular layout := by
  obtain ⟨job, showDebug, operations, rfl⟩ := regular.arises
  exact ⟨⟨job, showDebug, operations ++ [operation], (run_concat _ _ _).symm⟩,
    after_onRows regular.on_rows operation byRows⟩

theorem Regular.layout_eq (regular : viewer.Regular layout) : viewer.viewport.layout = layout := by
  obtain ⟨job, showDebug, operations, rfl⟩ := regular.arises
  exact (run_steady job layout showDebug operations).2

theorem Regular.exact_ (regular : viewer.Regular layout) : viewer.buffer.Exact := by
  obtain ⟨job, showDebug, operations, rfl⟩ := regular.arises
  have started : (new job layout showDebug).buffer.Exact := rfl
  exact run_exact started operations

theorem Regular.offset_rows (regular : viewer.Regular layout) (tall : 0 < layout.rowHeight) :
    ∃ row : Nat, viewer.viewport.scrollOffset = row * layout.rowHeight := by
  have whole := regular.on_rows.offset_whole
  rw [regular.layout_eq] at whole
  refine whole.exists_nat tall ?_
  obtain ⟨job, showDebug, operations, rfl⟩ := regular.arises
  exact (run_legal layout tall.le job showDebug operations).1

theorem Regular.height_rows (regular : viewer.Regular layout) (tall : 0 < layout.rowHeight) :
    ∃ rows : Nat, viewer.viewport.containerHeight = rows * layout.rowHeight := by
  have whole := regular.on_rows.height_whole
  rw [regular.layout_eq] at whole
  refine whole.exists_nat tall ?_
  obtain ⟨job, showDebug, operations, rfl⟩ := regular.arises
  exact run_height_nonneg job layout showDebug operations

end Viewer

end LiveLog
