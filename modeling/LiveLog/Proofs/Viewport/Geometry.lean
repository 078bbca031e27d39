import LiveLog.Viewport
import Mathlib.Data.Rat.Floor
import Mathlib.Tactic.Linarith
import Mathlib.Tactic.Positivity

/-! Scroll geometry over the rationals, where a height divided by the row height loses nothing. A
viewport scrolled to the end has the end of the list in sight and in its window, and a row that is
wholly inside the container is among those materialized. Showing a row moves a viewport no further than it has
to. -/
namespace LiveLog

namespace Scalar

theorem zero_eq : (zero : Rat) = 0 := rfl

theorem atLeastZero_eq (x : Rat) : atLeastZero x = max 0 x := by
  unfold atLeastZero
  rw [zero_eq]
  split
  · rename_i above
    exact (max_eq_right above.le).symm
  · rename_i below
    exact (max_eq_left (not_lt.mp below)).symm

theorem clamp_eq {low high : Rat} (bounds : low ≤ high) (x : Rat) :
    clamp low high x = max low (min x high) := by
  unfold clamp
  split
  · rename_i below
    rw [min_eq_left (below.le.trans bounds), max_eq_left below.le]
  · rename_i above
    split
    · rename_i beyond
      rw [min_eq_right beyond.le, max_eq_right bounds]
    · rename_i within
      rw [min_eq_left (not_lt.mp within), max_eq_right (not_lt.mp above)]

theorem ceilCount_eq (x : Rat) : ceilCount x = ⌈x⌉₊ := by
  apply eq_of_forall_ge_iff
  intro count
  have rounded : x.ceil.toNat ≤ count ↔ x.ceil ≤ (count : Int) := by omega
  rw [Nat.ceil_le]
  exact rounded.trans Rat.ceil_le_iff

end Scalar

namespace Viewport

/-- The row at an index is wholly inside the container. -/
def ShowsRow (view : Viewport Rat) (index : Nat) : Prop :=
  view.scrollOffset ≤ view.rows index ∧
    view.rows (index + 1) ≤ view.scrollOffset + view.containerHeight

/-- The offset leaves no room above the list and none below it. -/
def Legal (view : Viewport Rat) (count : Nat) : Prop :=
  0 ≤ view.scrollOffset ∧ view.scrollOffset ≤ view.maxScroll count

variable {view : Viewport Rat} {count : Nat}

/-! ### Heights and offsets -/

theorem rows_eq (view : Viewport Rat) (count : Nat) :
    view.rows count = count * view.layout.rowHeight := rfl

theorem rows_succ (view : Viewport Rat) (count : Nat) :
    view.rows (count + 1) = view.rows count + view.layout.rowHeight := by
  rw [rows_eq, rows_eq, Nat.cast_succ]
  ring

theorem rows_mono (flat : 0 ≤ view.layout.rowHeight) {fewer more : Nat} (le : fewer ≤ more) :
    view.rows fewer ≤ view.rows more :=
  mul_le_mul_of_nonneg_right (Nat.cast_le.mpr le) flat

theorem maxScroll_eq (view : Viewport Rat) (count : Nat) :
    view.maxScroll count = max 0 (view.rows count - view.containerHeight) :=
  Scalar.atLeastZero_eq _

theorem maxScroll_nonneg (view : Viewport Rat) (count : Nat) : 0 ≤ view.maxScroll count := by
  rw [maxScroll_eq]
  exact le_max_left _ _

theorem rows_le_maxScroll (view : Viewport Rat) (count : Nat) :
    view.rows count ≤ view.maxScroll count + view.containerHeight := by
  have := le_max_right 0 (view.rows count - view.containerHeight)
  rw [maxScroll_eq]
  linarith

theorem clampOffset_eq (view : Viewport Rat) (count : Nat) (offset : Rat) :
    view.clampOffset count offset = max 0 (min offset (view.maxScroll count)) :=
  Scalar.clamp_eq (maxScroll_nonneg view count) offset

/-- An offset that is in the list already is left as it is. -/
theorem clampOffset_within {offset : Rat} (nonneg : 0 ≤ offset)
    (within : offset ≤ view.maxScroll count) : view.clampOffset count offset = offset := by
  rw [clampOffset_eq, min_eq_left within, max_eq_right nonneg]

/-- An offset that was brought into the list leaves no room. -/
theorem clampOffset_bounds (view : Viewport Rat) (count : Nat) (offset : Rat) :
    0 ≤ view.clampOffset count offset ∧ view.clampOffset count offset ≤ view.maxScroll count := by
  rw [clampOffset_eq]
  exact ⟨le_max_left _ _, max_le (maxScroll_nonneg view count) (min_le_right _ _)⟩

/-- A longer list can be scrolled at least as far. -/
theorem maxScroll_mono (flat : 0 ≤ view.layout.rowHeight) {fewer more : Nat} (le : fewer ≤ more) :
    view.maxScroll fewer ≤ view.maxScroll more := by
  rw [maxScroll_eq, maxScroll_eq]
  exact max_le_max_left 0 (sub_le_sub_right (rows_mono flat le) _)

theorem isAtBottom_iff (view : Viewport Rat) (count : Nat) :
    view.isAtBottom count = true ↔
      view.rows count - view.layout.bottomTolerance ≤ view.scrollOffset + view.containerHeight :=
  decide_eq_true_iff

/-- A shorter list has its end in sight where a longer one has. -/
theorem at_bottom_of_fewer (flat : 0 ≤ view.layout.rowHeight) {fewer : Nat} (le : fewer ≤ count)
    (bottom : view.isAtBottom count = true) : view.isAtBottom fewer = true := by
  rw [isAtBottom_iff] at bottom ⊢
  have := rows_mono flat le
  linarith

/-! ### Scrolled to the end -/

theorem at_bottom_of_end (tolerant : 0 ≤ view.layout.bottomTolerance)
    (ended : view.scrollOffset = view.maxScroll count) : view.isAtBottom count = true := by
  rw [isAtBottom_iff, ended]
  have := rows_le_maxScroll view count
  linarith

theorem window_start (view : Viewport Rat) (count : Nat) :
    (view.window count).start =
      min ⌊view.scrollOffset / view.layout.rowHeight⌋₊ (view.window count).stop := rfl

theorem window_stop (view : Viewport Rat) (count : Nat) :
    (view.window count).stop =
      min count (⌊view.scrollOffset / view.layout.rowHeight⌋₊ +
        (⌈view.containerHeight / view.layout.rowHeight⌉₊ + view.layout.bufferRows)) := by
  rw [← Scalar.ceilCount_eq]
  rfl

/-- The begun rows above an offset and the begun rows of the container reach down to every row that
begins above the container's lower edge. -/
theorem reached_of_rows_le (tall : 0 < view.layout.rowHeight)
    (reached : view.rows count ≤ view.scrollOffset + view.containerHeight) :
    count ≤ ⌊view.scrollOffset / view.layout.rowHeight⌋₊ +
      ⌈view.containerHeight / view.layout.rowHeight⌉₊ := by
  have shares : (count : Rat) ≤ view.scrollOffset / view.layout.rowHeight +
      view.containerHeight / view.layout.rowHeight := by
    rw [← add_div, le_div_iff₀ tall]
    exact reached
  have above := Nat.lt_floor_add_one (view.scrollOffset / view.layout.rowHeight)
  have inside := Nat.le_ceil (view.containerHeight / view.layout.rowHeight)
  have sum : (count : Rat) < ((⌊view.scrollOffset / view.layout.rowHeight⌋₊ +
      ⌈view.containerHeight / view.layout.rowHeight⌉₊ + 1 : Nat) : Rat) := by
    push_cast
    linarith
  exact Nat.lt_succ_iff.mp (Nat.cast_lt.mp sum)

/-- The window of a viewport scrolled to the end ends with the list. -/
theorem window_stop_of_end (tall : 0 < view.layout.rowHeight)
    (ended : view.scrollOffset = view.maxScroll count) : (view.window count).stop = count := by
  have full : view.rows count ≤ view.scrollOffset + view.containerHeight := by
    rw [ended]
    exact rows_le_maxScroll view count
  have reached := reached_of_rows_le tall full
  rw [window_stop]
  omega

/-- If the container has a height, a viewport scrolled to the end is above the lower edge of the last
row. -/
theorem offset_lt_rows_of_end (tall : 0 < view.layout.rowHeight) (open_ : 0 < view.containerHeight)
    (some_ : 0 < count) (ended : view.scrollOffset = view.maxScroll count) :
    view.scrollOffset < view.rows count := by
  have positive : 0 < view.rows count := mul_pos (Nat.cast_pos.mpr some_) tall
  rw [ended, maxScroll_eq]
  exact max_lt positive (by linarith)

/-- Its window then has the last row. -/
theorem window_start_of_end (tall : 0 < view.layout.rowHeight) (open_ : 0 < view.containerHeight)
    (some_ : 0 < count) (ended : view.scrollOffset = view.maxScroll count) :
    (view.window count).start < count := by
  have begun := offset_lt_rows_of_end tall open_ some_ ended
  have above : ⌊view.scrollOffset / view.layout.rowHeight⌋₊ < count := by
    rw [Nat.floor_lt' some_.ne', div_lt_iff₀ tall]
    exact begun
  rw [window_start]
  exact (min_le_left _ _).trans_lt above

/-- A row of the list that is wholly inside the container is materialized. -/
theorem shown_row_in_window (tall : 0 < view.layout.rowHeight) {index : Nat} (bound : index < count)
    (shows : view.ShowsRow index) :
    (view.window count).start ≤ index ∧ index < (view.window count).stop := by
  have reached := reached_of_rows_le tall shows.2
  have above : ⌊view.scrollOffset / view.layout.rowHeight⌋₊ ≤ index := by
    apply Nat.floor_le_of_le
    rw [div_le_iff₀ tall]
    exact shows.1
  rw [window_start, window_stop]
  omega

/-- The window of a legal offset begins with the row the offset is in: the list does not end before
it. -/
theorem window_start_of_legal (tall : 0 < view.layout.rowHeight) (nonneg : 0 ≤ view.containerHeight)
    (legal : view.Legal count) :
    (view.window count).start = ⌊view.scrollOffset / view.layout.rowHeight⌋₊ := by
  have within : view.scrollOffset ≤ view.rows count := by
    have full : 0 ≤ view.rows count := mul_nonneg (Nat.cast_nonneg count) tall.le
    have least := legal.2
    rw [maxScroll_eq] at least
    exact least.trans (max_le full (by linarith))
  have above : ⌊view.scrollOffset / view.layout.rowHeight⌋₊ ≤ count := by
    apply Nat.floor_le_of_le
    rw [div_le_iff₀ tall]
    exact within
  rw [window_start, window_stop]
  omega

/-- A window over a longer list stops no earlier. -/
theorem window_stop_mono (view : Viewport Rat) {fewer more : Nat} (le : fewer ≤ more) :
    (view.window fewer).stop ≤ (view.window more).stop := by
  rw [window_stop, window_stop]
  exact min_le_min_right _ le

/-! ### Showing a row -/

theorem reveal_offset (view : Viewport Rat) (index count : Nat) :
    (view.reveal index count).scrollOffset =
      view.clampOffset count
        (if view.rows index < view.scrollOffset then view.rows index
        else if view.scrollOffset + view.containerHeight < view.rows (index + 1) then
          view.rows (index + 1) - view.containerHeight
        else view.scrollOffset) := by
  rw [rows_succ]
  rfl

/-- A row is wholly inside the container between the offset at which its lower edge comes in and the one
at which its upper edge goes out. -/
theorem shows_row_iff (view : Viewport Rat) (index : Nat) :
    view.ShowsRow index ↔
      view.rows (index + 1) - view.containerHeight ≤ view.scrollOffset ∧
        view.scrollOffset ≤ view.rows index := by
  rw [ShowsRow, sub_le_iff_le_add]
  exact and_comm

/-- A container that holds a row takes, to show it, the nearest of the offsets at which the row is wholly
inside. The ends of the list leave that offset as it is. -/
theorem reveal_offset_eq (tall : 0 < view.layout.rowHeight)
    (fits : view.layout.rowHeight ≤ view.containerHeight) {index : Nat} (bound : index < count)
    (legal : view.Legal count) :
    (view.reveal index count).scrollOffset =
      max (view.rows (index + 1) - view.containerHeight) (min view.scrollOffset (view.rows index)) := by
  have top : 0 ≤ view.rows index := by
    rw [rows_eq]
    positivity
  have below : view.rows (index + 1) ≤ view.maxScroll count + view.containerHeight :=
    (rows_mono tall.le bound).trans (rows_le_maxScroll view count)
  have next := rows_succ view index
  obtain ⟨nonneg, within⟩ := legal
  rw [reveal_offset]
  split
  · rename_i higher
    rw [min_eq_right higher.le, max_eq_right (by linarith)]
    exact clampOffset_within top (by linarith)
  · rename_i reached
    rw [min_eq_left (not_lt.mp reached)]
    split
    · rename_i lower
      rw [max_eq_left (by linarith)]
      exact clampOffset_within (by linarith) (by linarith)
    · rename_i seen
      rw [max_eq_right (by linarith)]
      exact clampOffset_within nonneg within

/-- A container that holds a row shows it once it is revealed. -/
theorem reveal_shows (tall : 0 < view.layout.rowHeight)
    (fits : view.layout.rowHeight ≤ view.containerHeight) {index : Nat} (bound : index < count)
    (legal : view.Legal count) : (view.reveal index count).ShowsRow index := by
  have next := rows_succ view index
  have low : view.rows (index + 1) - view.containerHeight ≤ view.rows index := by linarith
  rw [shows_row_iff, reveal_offset_eq tall fits bound legal]
  exact ⟨le_max_left _ _, max_le low (min_le_right _ _)⟩

/-- A container without a height at the top of its list stops right below the row. -/
theorem reveal_without_height (tall : 0 < view.layout.rowHeight) {index : Nat} (bound : index < count)
    (flat : view.containerHeight = 0) (top : view.scrollOffset = 0) :
    (view.reveal index count).scrollOffset = view.rows (index + 1) := by
  have nonneg : 0 ≤ view.rows index := by
    rw [rows_eq]
    positivity
  have next := rows_succ view index
  have below : view.rows (index + 1) ≤ view.maxScroll count := by
    have := (rows_mono tall.le bound).trans (rows_le_maxScroll view count)
    linarith
  rw [reveal_offset, flat, top, if_neg (by linarith), if_pos (by linarith), sub_zero]
  exact clampOffset_within (by linarith) below

/-- A container that does not follow the end takes another height and keeps its offset, as far as the
list then goes. -/
theorem resize_unfollowed (unfollowed : view.followTail = false) (height : Rat) (count : Nat) :
    view.resize height count =
      { view with
        containerHeight := max 0 height
        scrollOffset := max 0 (min view.scrollOffset (max 0 (view.rows count - max 0 height))) } := by
  rw [resize, Scalar.atLeastZero_eq, if_neg (by simp [unfollowed]), clamp, clampOffset_eq,
    maxScroll_eq]
  rfl

/-- A container that stopped right below a row shows the row with a height that holds it exactly if the
height holds all the list from the row on: then the end of the list pulls the container back. -/
theorem resize_shows_iff (tall : 0 < view.layout.rowHeight) (unfollowed : view.followTail = false)
    {height : Rat} (fits : view.layout.rowHeight ≤ height) {index : Nat} (bound : index < count)
    (below : view.scrollOffset = view.rows (index + 1)) :
    (view.resize height count).ShowsRow index ↔ view.rows count ≤ view.rows index + height := by
  have top : 0 ≤ view.rows index := by
    rw [rows_eq]
    positivity
  have next := rows_succ view index
  have reached : view.rows (index + 1) ≤ view.rows count := rows_mono tall.le bound
  have sized : max 0 height = height := max_eq_right (by linarith)
  have resized := resize_unfollowed unfollowed height count
  rw [sized, below] at resized
  have same (n : Nat) : (view.resize height count).rows n = view.rows n := by
    rw [resized]
    rfl
  rw [ShowsRow, same, same, resized]
  constructor
  · rintro ⟨above, -⟩
    by_contra beyond
    -- Both the lower edge of the row and the end of the list leave an offset beyond the row.
    have room : view.rows index < max 0 (view.rows count - height) :=
      lt_max_of_lt_right (by linarith)
    have past : view.rows index < min (view.rows (index + 1)) (max 0 (view.rows count - height)) :=
      lt_min (by linarith) room
    have := le_max_right 0 (min (view.rows (index + 1)) (max 0 (view.rows count - height)))
    linarith
  · intro short
    have pulled : max 0 (view.rows count - height) ≤ view.rows index := max_le top (by linarith)
    have full := le_max_right 0 (view.rows count - height)
    rw [min_eq_right (by linarith), max_eq_right (le_max_left _ _)]
    exact ⟨pulled, by linarith⟩

/-! ### Showing a row with the least movement

The offsets at which the row is wholly inside the container form an interval that reaches into the list, and the
viewport goes to the point of it nearest to where it was. -/

/-- The viewport at another offset. -/
def placed (view : Viewport Rat) (offset : Rat) : Viewport Rat :=
  { view with scrollOffset := offset }

variable {index : Nat}

/-- Showing a row sets the offset and nothing else. -/
theorem reveal_eq_placed (view : Viewport Rat) (index count : Nat) :
    view.reveal index count = view.placed (view.reveal index count).scrollOffset := rfl

/-- Of the points of an interval, the one a point is brought to is nearest to it. -/
private theorem nearest_of_interval {low high other : Rat} (above : low ≤ other) (below : other ≤ high)
    (start : Rat) : |max low (min start high) - start| ≤ |other - start| := by
  rcases lt_or_ge high start with beyond | within
  · rw [min_eq_right beyond.le, max_eq_right (above.trans below),
      abs_of_nonpos (by linarith), abs_of_nonpos (by linarith)]
    linarith
  · rw [min_eq_left within]
    rcases lt_or_ge start low with before | inside
    · rw [max_eq_left before.le, abs_of_nonneg (by linarith), abs_of_nonneg (by linarith)]
      linarith
    · rw [max_eq_right inside, sub_self, abs_zero]
      exact abs_nonneg _

/-- No offset that shows the row is nearer than the one taken. -/
theorem reveal_nearest (tall : 0 < view.layout.rowHeight)
    (fits : view.layout.rowHeight ≤ view.containerHeight) (bound : index < count)
    (legal : view.Legal count) {offset : Rat} (shows : (view.placed offset).ShowsRow index) :
    |(view.reveal index count).scrollOffset - view.scrollOffset| ≤ |offset - view.scrollOffset| := by
  obtain ⟨above, below⟩ := (shows_row_iff _ index).mp shows
  rw [reveal_offset_eq tall fits bound legal]
  exact nearest_of_interval above below view.scrollOffset

/-- A viewport that shows the row already stays as it is. -/
theorem reveal_shown (tall : 0 < view.layout.rowHeight)
    (fits : view.layout.rowHeight ≤ view.containerHeight) (bound : index < count)
    (legal : view.Legal count) (shows : view.ShowsRow index) : view.reveal index count = view := by
  obtain ⟨above, below⟩ := (shows_row_iff view index).mp shows
  have still : (view.reveal index count).scrollOffset = view.scrollOffset := by
    rw [reveal_offset_eq tall fits bound legal, min_eq_left below, max_eq_right above]
  rw [reveal_eq_placed, still]
  rfl

/-- A container that holds a row shows it once it is revealed, at a legal offset and with the row among
those materialized. Of all legal offsets that show the row none is nearer to the one before; a viewport
that shows the row already does not move. -/
theorem reveal_scrolls_least (tall : 0 < view.layout.rowHeight)
    (fits : view.layout.rowHeight ≤ view.containerHeight) (bound : index < count)
    (legal : view.Legal count) :
    let after := view.reveal index count
    after.Legal count ∧ after.ShowsRow index ∧
      ((after.window count).start ≤ index ∧ index < (after.window count).stop) ∧
      (∀ offset, (view.placed offset).Legal count → (view.placed offset).ShowsRow index →
        |after.scrollOffset - view.scrollOffset| ≤ |offset - view.scrollOffset|) ∧
      (view.ShowsRow index → after = view) := by
  intro after
  have shows : after.ShowsRow index := reveal_shows tall fits bound legal
  have same : 0 < after.layout.rowHeight := tall
  refine ⟨clampOffset_bounds view count _, shows, shown_row_in_window same bound shows, ?_, ?_⟩
  · intro offset _ showsToo
    exact reveal_nearest tall fits bound legal showsToo
  · exact reveal_shown tall fits bound legal

/-- Ten rows of twenty in a container of fifty, scrolled into the second row: the eighth row comes in at
the lower edge, after eighty. -/
theorem eighth_row_shown_from_second :
    let view : Viewport Rat := ⟨⟨20, 2, 10, 100⟩, 30, 50, false, none, false, none⟩
    let after := view.reveal 7 10
    0 < view.layout.rowHeight ∧ view.layout.rowHeight ≤ view.containerHeight ∧ 7 < 10 ∧
      view.Legal 10 ∧ after.scrollOffset = 110 ∧
      after.Legal 10 ∧ after.ShowsRow 7 ∧
      ((after.window 10).start ≤ 7 ∧ 7 < (after.window 10).stop) ∧
      (∀ offset, (view.placed offset).Legal 10 → (view.placed offset).ShowsRow 7 →
        |after.scrollOffset - view.scrollOffset| ≤ |offset - view.scrollOffset|) ∧
      (view.ShowsRow 7 → after = view) := by
  intro view after
  have tall : 0 < view.layout.rowHeight := by decide
  have fits : view.layout.rowHeight ≤ view.containerHeight := by decide
  have legal : view.Legal 10 := ⟨by decide, by decide +kernel⟩
  exact ⟨tall, fits, by decide, legal, by decide +kernel,
    reveal_scrolls_least tall fits (by decide) legal⟩

end Viewport

end LiveLog
