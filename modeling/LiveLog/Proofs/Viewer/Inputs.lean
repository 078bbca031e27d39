import LiveLog.Viewer
import LiveLog.Proofs.Buffer.View

/-! All that comes to a viewer: events of its stream, what its user does, and the clock that lets a
scroll settle. Only batches bring records, in the order of their coming, and only the user changes the
filter. The view of the buffer stays exact throughout. -/
namespace LiveLog

/-- The records an event brings. -/
def StreamEvent.records : StreamEvent → List Record
  | .batch raw => Record.decodeBatch raw
  | .opened => []
  | .error _ _ => []

namespace Viewer

variable {α : Type}

/-- What a user does to a viewer. -/
inductive Action (α : Type) where
  | setSearch (text : String)
  | setShowDebug (showDebug : Bool)
  | toggleFollowTail
  | selectLine (line : Option UInt64)
  | moveSelection (steps : Int)
  | openAt (line : UInt64)
  | toggleFullscreen
  | exitFullscreen
  | scrollByRows (steps : Int) (now : Nat)
  | scrollTo (offset : α) (now : Nat)
  | resize (height : α)

/-- What comes to a viewer. -/
inductive Input (α : Type) where
  | event (event : StreamEvent)
  | action (action : Action α)
  | settled (now : Nat)

/-- The event an input is. -/
def Input.event? : Input α → Option StreamEvent
  | .event arrived => some arrived
  | .action _ => none
  | .settled _ => none

/-- The records of the inputs of a viewer, in the order of their coming. -/
def brought (inputs : List (Input α)) : List Record :=
  (inputs.filterMap Input.event?).flatMap StreamEvent.records

@[simp] theorem brought_append (first second : List (Input α)) :
    brought (first ++ second) = brought first ++ brought second := by
  simp [brought]

variable [Scalar α] {viewer : Viewer α}

/-- The viewer after an action of its user. -/
def acted (viewer : Viewer α) : Action α → Viewer α
  | .setSearch text => viewer.setSearch text
  | .setShowDebug showDebug => viewer.setShowDebug showDebug
  | .toggleFollowTail => viewer.toggleFollowTail
  | .selectLine line => viewer.selectLine line
  | .moveSelection steps => (viewer.moveSelection steps).1
  | .openAt line => viewer.openAt line
  | .toggleFullscreen => viewer.toggleFullscreen
  | .exitFullscreen => viewer.exitFullscreen
  | .scrollByRows steps now => viewer.scrollByRows steps now
  | .scrollTo offset now => viewer.scrollTo offset now
  | .resize height => viewer.resize height

/-- The viewer after an input. -/
def fed (viewer : Viewer α) : Input α → Viewer α
  | .event event => viewer.apply event
  | .action action => viewer.acted action
  | .settled now => viewer.settle now

/-- The viewer after inputs in their order. -/
def fedAll (viewer : Viewer α) (inputs : List (Input α)) : Viewer α :=
  inputs.foldl fed viewer

theorem fedAll_append (viewer : Viewer α) (first second : List (Input α)) :
    viewer.fedAll (first ++ second) = (viewer.fedAll first).fedAll second :=
  List.foldl_append

/-! ### The buffer after an input -/

/-- Records that arrive are appended, whatever becomes of the viewport. -/
theorem append_buffer (viewer : Viewer α) (records : List Record) :
    (viewer.append records).buffer = viewer.buffer.append records := by
  unfold append
  split
  · rename_i empty
    rw [List.isEmpty_iff.mp empty]
    rfl
  · dsimp only
    split
    · rfl
    · split
      · rfl
      · split <;> rfl

/-- An event appends the records it brings. -/
theorem apply_buffer (viewer : Viewer α) (event : StreamEvent) :
    (viewer.apply event).buffer = viewer.buffer.append event.records := by
  cases event with
  | batch raw => exact viewer.append_buffer _
  | opened => rfl
  | error message retryCount => rfl

theorem revealSelected_buffer (viewer : Viewer α) : viewer.revealSelected.buffer = viewer.buffer := by
  unfold revealSelected
  split
  · rfl
  · split <;> rfl

theorem moveSelection_buffer (viewer : Viewer α) (steps : Int) :
    (viewer.moveSelection steps).1.buffer = viewer.buffer := by
  unfold moveSelection
  split
  · rfl
  · dsimp only
    split <;> rfl

/-- What a user does leaves the buffer alone or sets another filter. -/
theorem acted_buffer (viewer : Viewer α) (action : Action α) :
    (viewer.acted action).buffer = viewer.buffer ∨
      ∃ filter, (viewer.acted action).buffer = viewer.buffer.setFilter filter := by
  cases action with
  | setSearch text =>
    simp only [acted, setSearch]
    split
    · exact .inl rfl
    · refine .inr ⟨viewer.buffer.filter.withText text, ?_⟩
      split
      · exact revealSelected_buffer _
      · rfl
  | setShowDebug showDebug =>
    simp only [acted, setShowDebug]
    split
    · exact .inl rfl
    · exact .inr ⟨_, rfl⟩
  | moveSelection steps => exact .inl (viewer.moveSelection_buffer steps)
  | openAt line => exact .inl (revealSelected_buffer _)
  | _ => exact .inl rfl

theorem fed_records (viewer : Viewer α) (input : Input α) :
    (viewer.fed input).buffer.records.toList =
      viewer.buffer.records.toList ++ brought [input] := by
  cases input with
  | event event =>
    rw [fed, apply_buffer, (Buffer.append_keeps _ _).1]
    simp [brought, Input.event?]
  | action action =>
    have nothing : brought [.action action] = [] := rfl
    rw [nothing, List.append_nil, fed]
    rcases viewer.acted_buffer action with same | ⟨filter, changed⟩
    · rw [same]
    · rw [changed]
      rfl
  | settled now => exact (List.append_nil _).symm

theorem fed_exact (exact : viewer.buffer.Exact) (input : Input α) :
    (viewer.fed input).buffer.Exact := by
  cases input with
  | event event =>
    rw [fed, apply_buffer]
    exact Buffer.append_exact exact _
  | action action =>
    rcases viewer.acted_buffer action with same | ⟨filter, changed⟩
    · rw [fed, same]
      exact exact
    · rw [fed, changed]
      rfl
  | settled now => exact exact

/-- A viewer holds the records it held before and those of its inputs, and its view stays exact. -/
theorem fedAll_buffer (exact : viewer.buffer.Exact) (inputs : List (Input α)) :
    (viewer.fedAll inputs).buffer.records.toList = viewer.buffer.records.toList ++ brought inputs ∧
      (viewer.fedAll inputs).buffer.Exact := by
  induction inputs generalizing viewer with
  | nil => exact ⟨(List.append_nil _).symm, exact⟩
  | cons input inputs ih =>
    obtain ⟨records, still⟩ := ih (fed_exact exact input)
    refine ⟨records.trans ?_, still⟩
    rw [fed_records, List.append_assoc, ← brought_append, List.singleton_append]

end Viewer
end LiveLog
