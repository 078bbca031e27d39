import LiveLog.Buffer
import LiveLog.DeepLink
import LiveLog.Record
import LiveLog.Viewport

/-! The viewer of one job: its records and the view on them, the scroll state, how its connection is
doing, and the location it publishes. A viewer changes only by the operations below; stream events and
user actions are both among them. -/
namespace LiveLog

/-- What a connection tells its viewer. The records of a batch are not decoded yet; a failure is told with
the failures in a row, counted in 32 bits. -/
inductive StreamEvent where
  | opened
  | batch (raw : List Json)
  | error (message : String) (retryCount : UInt32)
  deriving Inhabited

/-- How the connection of a viewer is doing. -/
inductive Status where
  | connecting
  | live
  | reconnecting (attempts : UInt32) (error : String)
  deriving DecidableEq, Repr

/-- The state of a viewer. A reveal is pending while the selected line is to be shown and has not
arrived in the view. -/
structure Viewer (α : Type) where
  job : String
  buffer : Buffer
  viewport : Viewport α
  status : Status
  location : DeepLink
  revealPending : Bool

namespace Viewer

variable {α : Type} [Scalar α]

/-- The viewer of a job before anything arrived. -/
def new (job : String) (layout : Layout α) (showDebug : Bool) : Viewer α where
  job := job
  buffer := Buffer.new (Filter.new "" showDebug)
  viewport := Viewport.new layout
  status := .connecting
  location := ⟨job, none⟩
  revealPending := false

/-- The number of records in the view. -/
def count (viewer : Viewer α) : Nat := viewer.buffer.count

/-- A pending reveal carried out at a position of the view. -/
def revealAt (viewer : Viewer α) (position : Nat) : Viewer α :=
  { viewer with
    viewport := viewer.viewport.reveal position viewer.count
    revealPending := false }

/-- Records arrive. Following the end overrides a pending reveal; otherwise only the new part of the
view is searched for the line, as it was not in the old one. -/
def append (viewer : Viewer α) (records : List Record) : Viewer α :=
  if records.isEmpty then viewer
  else
    let buffer := viewer.buffer.append records
    let grown := { viewer with buffer, viewport := viewer.viewport.afterAppend buffer.count }
    if !grown.revealPending then grown
    else if grown.viewport.followTail then { grown with revealPending := false }
    else
      match grown.viewport.selectedLine >>= (buffer.positionFrom? · viewer.count) with
      | some position => grown.revealAt position
      | none => grown

/-- A stream event arrives. -/
def apply (viewer : Viewer α) : StreamEvent → Viewer α
  | .opened => { viewer with status := .live }
  | .batch raw => viewer.append (Record.decodeBatch raw)
  | .error message retryCount => { viewer with status := .reconnecting retryCount message }

/-- The rows to materialize. -/
def window (viewer : Viewer α) : Window α :=
  viewer.viewport.window viewer.count

/-- The records of those rows. -/
def visibleRecords (viewer : Viewer α) : List Record :=
  viewer.buffer.slice viewer.window.start viewer.window.stop

/-- Shows the selected line if it is in the view. With no line selected nothing is pending. -/
def revealSelected (viewer : Viewer α) : Viewer α :=
  match viewer.viewport.selectedLine with
  | none => { viewer with revealPending := false }
  | some line =>
    match viewer.buffer.position? line with
    | some position => viewer.revealAt position
    | none => viewer

/-- Searches for another text. Starting a search and ending one go back to the top. -/
def setSearch (viewer : Viewer α) (text : String) : Viewer α :=
  if viewer.buffer.filter.text = text then viewer
  else
    let buffer := viewer.buffer.setFilter (viewer.buffer.filter.withText text)
    let viewport :=
      if viewer.buffer.filter.text.isEmpty != text.isEmpty then viewer.viewport.resetToTop
      else if viewer.viewport.followTail then viewer.viewport.scrollToBottom buffer.count
      else viewer.viewport.clamp buffer.count
    let changed := { viewer with buffer, viewport }
    if changed.revealPending then changed.revealSelected else changed

/-- Shows or hides verbose records. A change goes to the newest records. -/
def setShowDebug (viewer : Viewer α) (showDebug : Bool) : Viewer α :=
  if viewer.buffer.filter.showVerbose = showDebug then viewer
  else
    let buffer := viewer.buffer.setFilter (viewer.buffer.filter.withVerbose showDebug)
    { viewer with
      buffer
      revealPending := false
      viewport := viewer.viewport.resetToTop.setFollowTail true buffer.count }

/-- Follows the end, or stops following it. -/
def toggleFollowTail (viewer : Viewer α) : Viewer α :=
  let follow := !viewer.viewport.followTail
  { viewer with
    revealPending := viewer.revealPending && !follow
    viewport := viewer.viewport.setFollowTail follow viewer.count }

/-- The user scrolls to an offset. -/
def scrollTo (viewer : Viewer α) (offset : α) (now : Nat) : Viewer α :=
  { viewer with
    revealPending := false
    viewport := viewer.viewport.scrollTo offset viewer.count now }

/-- The user scrolls by rows. -/
def scrollByRows (viewer : Viewer α) (steps : Int) (now : Nat) : Viewer α :=
  { viewer with
    revealPending := false
    viewport := viewer.viewport.scrollByRows steps viewer.count now }

/-- The user scrolls to the top. -/
def scrollToTop (viewer : Viewer α) (now : Nat) : Viewer α :=
  viewer.scrollTo Scalar.zero now

/-- Looks at a scroll that has settled. -/
def settle (viewer : Viewer α) (now : Nat) : Viewer α :=
  let viewport := viewer.viewport.settle viewer.count now
  { viewer with viewport, revealPending := viewer.revealPending && !viewport.followTail }

/-- The container takes another height. -/
def resize (viewer : Viewer α) (height : α) : Viewer α :=
  { viewer with viewport := viewer.viewport.resize height viewer.count }

/-- Selects a line, or none, and publishes the location. -/
def selectLine (viewer : Viewer α) (line : Option UInt64) : Viewer α :=
  { viewer with
    revealPending := false
    viewport := { viewer.viewport with selectedLine := line }
    location := ⟨viewer.job, line⟩ }

/-- Selects a line and shows it as soon as it is in the view. -/
def openAt (viewer : Viewer α) (line : UInt64) : Viewer α :=
  let selected := viewer.selectLine (some line)
  { selected with
    viewport := { selected.viewport with followTail := false }
    revealPending := true }.revealSelected

/-- The position a selection moves to: as many places on as asked for, within the view. -/
def stepTarget (count current : Nat) (steps : Int) : Nat :=
  (max 0 (min (current + steps) (count - 1))).toNat

/-- Moves the selection through the view and shows it. Without a selection in the view nothing
changes. -/
def moveSelection (viewer : Viewer α) (steps : Int) : Viewer α × Option DeepLink :=
  match viewer.viewport.selectedLine >>= viewer.buffer.position? with
  | none => (viewer, none)
  | some current =>
    let target := stepTarget viewer.count current steps
    match viewer.buffer.get? target with
    | none => (viewer, none)
    | some record =>
      let viewport := { viewer.viewport with followTail := false }.reveal target viewer.count
      let moved := { viewer with viewport }.selectLine (some record.sequence)
      (moved, some moved.location)

/-- Into fullscreen or out of it. -/
def toggleFullscreen (viewer : Viewer α) : Viewer α :=
  { viewer with viewport := viewer.viewport.toggleFullscreen }

/-- Out of fullscreen. -/
def exitFullscreen (viewer : Viewer α) : Viewer α :=
  { viewer with viewport := viewer.viewport.exitFullscreen }

end Viewer

end LiveLog
