import LiveLog.Scalar

/-! The scroll state of a viewer and the part of a long list it makes visible. A list is known by its
number of rows alone; all rows have the same height. -/
namespace LiveLog

/-- The height of a row, the number of rows materialized beyond the visible ones, how close to the end
still counts as the bottom, and how long in milliseconds a scroll takes to settle. -/
structure Layout (α : Type) where
  rowHeight : α
  bufferRows : Nat
  bottomTolerance : α
  scrollSettle : Nat

/-- The rows to materialize: from `start` up to `stop`, and what the list reserves around them. -/
structure Window (α : Type) where
  start : Nat
  stop : Nat
  /-- How many rows may be materialized at once. -/
  visibleCount : Nat
  /-- The height of the rows above `start`. -/
  offsetTop : α
  totalHeight : α

/-- The number of rows in a window. -/
def Window.length {α : Type} (window : Window α) : Nat :=
  window.stop - window.start

/-- Whether a window has no rows. -/
def Window.isEmpty {α : Type} (window : Window α) : Bool :=
  window.start == window.stop

/-- The scroll state. Times are in milliseconds. -/
structure Viewport (α : Type) where
  layout : Layout α
  scrollOffset : α
  containerHeight : α
  followTail : Bool
  /-- The line number of the selected record. -/
  selectedLine : Option UInt64
  isFullscreen : Bool
  /-- When the last scroll will have settled, until that was looked at. -/
  settleAt : Option Nat

namespace Viewport

variable {α : Type} [Scalar α]

/-- At the top of a list of no height, and following its end. -/
def new (layout : Layout α) : Viewport α where
  layout := layout
  scrollOffset := Scalar.zero
  containerHeight := Scalar.zero
  followTail := true
  selectedLine := none
  isFullscreen := false
  settleAt := none

/-- The height of so many rows. -/
def rows (view : Viewport α) (count : Nat) : α :=
  Scalar.ofCount count * view.layout.rowHeight

/-- The largest offset that leaves no room below the list. -/
def maxScroll (view : Viewport α) (count : Nat) : α :=
  Scalar.atLeastZero (view.rows count - view.containerHeight)

/-- The number of rows the container holds, begun ones included, and the rows kept beyond them. The sum is
taken without the bound of a machine word. -/
def visibleCount (view : Viewport α) : Nat :=
  Scalar.ceilCount (view.containerHeight / view.layout.rowHeight) + view.layout.bufferRows

/-- The rows to materialize of a list. -/
def window (view : Viewport α) (count : Nat) : Window α :=
  let first := Scalar.floorCount (view.scrollOffset / view.layout.rowHeight)
  let stop := min count (first + view.visibleCount)
  let start := min first stop
  { start, stop, visibleCount := view.visibleCount, offsetTop := view.rows start,
    totalHeight := view.rows count }

/-- Whether the end of the list is in sight, up to the tolerance. -/
def isAtBottom (view : Viewport α) (count : Nat) : Bool :=
  view.rows count - view.layout.bottomTolerance ≤ view.scrollOffset + view.containerHeight

/-- Scrolled to the end. -/
def scrollToBottom (view : Viewport α) (count : Nat) : Viewport α :=
  { view with scrollOffset := view.maxScroll count }

/-- Scrolled to the end where the end is followed, after rows joined the list. -/
def afterAppend (view : Viewport α) (count : Nat) : Viewport α :=
  if view.followTail then view.scrollToBottom count else view

/-- An offset brought into the list. -/
def clampOffset (view : Viewport α) (count : Nat) (offset : α) : α :=
  Scalar.clamp Scalar.zero (view.maxScroll count) offset

/-- The user scrolls to an offset. Leaving the bottom ends the following at once; whether it begins
again is looked at once the scroll has settled. -/
def scrollTo (view : Viewport α) (offset : α) (count now : Nat) : Viewport α :=
  let moved := { view with scrollOffset := view.clampOffset count offset }
  { moved with
    followTail := moved.followTail && moved.isAtBottom count
    settleAt := some (now + view.layout.scrollSettle) }

/-- The user scrolls by a number of rows. -/
def scrollByRows (view : Viewport α) (steps : Int) (count now : Nat) : Viewport α :=
  view.scrollTo (view.scrollOffset + Scalar.ofSteps steps * view.layout.rowHeight) count now

/-- Looks at a scroll that has settled: the end is followed from then on exactly if it is in
sight. -/
def settle (view : Viewport α) (count now : Nat) : Viewport α :=
  match view.settleAt with
  | some due =>
    if due ≤ now then { view with settleAt := none, followTail := view.isAtBottom count } else view
  | none => view

/-- The offset brought into the list. -/
def clamp (view : Viewport α) (count : Nat) : Viewport α :=
  { view with scrollOffset := view.clampOffset count view.scrollOffset }

/-- The container takes another height. -/
def resize (view : Viewport α) (height : α) (count : Nat) : Viewport α :=
  let sized := { view with containerHeight := Scalar.atLeastZero height }
  if view.followTail then sized.scrollToBottom count else sized.clamp count

/-- At the top, not following, and with no scroll left to settle. -/
def resetToTop (view : Viewport α) : Viewport α :=
  { view with scrollOffset := Scalar.zero, followTail := false, settleAt := none }

/-- Follows the end, or stops following it. No scroll is left to settle. -/
def setFollowTail (view : Viewport α) (follow : Bool) (count : Nat) : Viewport α :=
  let view := { view with followTail := follow, settleAt := none }
  if follow then view.scrollToBottom count else view

/-- Scrolled no further than it takes to see the whole row at an index. -/
def reveal (view : Viewport α) (index count : Nat) : Viewport α :=
  let top := view.rows index
  let bottom := top + view.layout.rowHeight
  let offset :=
    if top < view.scrollOffset then top
    else if view.scrollOffset + view.containerHeight < bottom then bottom - view.containerHeight
    else view.scrollOffset
  { view with scrollOffset := view.clampOffset count offset }

/-- Into fullscreen or out of it. -/
def toggleFullscreen (view : Viewport α) : Viewport α :=
  { view with isFullscreen := !view.isFullscreen }

/-- Out of fullscreen. -/
def exitFullscreen (view : Viewport α) : Viewport α :=
  { view with isFullscreen := false }

end Viewport

end LiveLog
