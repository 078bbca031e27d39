import LiveLog.Connection.Table

/-! All open viewers and their connections. Every open job has one viewer and one connection, known by
the same instance. An operation that names an instance which is not open changes nothing and says
so. -/
namespace LiveLog

/-- The name under which a job is open. -/
structure InstanceId where
  text : String
  deriving DecidableEq, Repr, Inhabited

/-- The instance of a job. -/
def InstanceId.ofJob (job : String) : InstanceId :=
  ⟨"job-logs-" ++ job⟩

/-- An open viewer and the number of the connection whose events it takes. -/
structure Instance (α : Type) where
  viewer : Viewer α
  channel : Nat

/-- The open viewers in the order of their opening, their connections, and the tunables of new
ones. -/
structure Coordinator (α : Type) where
  connections : Connections
  instances : List (InstanceId × Instance α)
  config : Config α

namespace Coordinator

variable {α : Type} [Scalar α]

/-- Nothing is open. -/
def new (config : Config α) : Coordinator α :=
  ⟨Connections.new config.streamSettings, [], config⟩

/-- The open instance of a name. -/
def instance? (coordinator : Coordinator α) (id : InstanceId) : Option (Instance α) :=
  coordinator.instances.lookup id

/-- The viewer of an open instance. -/
def viewer? (coordinator : Coordinator α) (id : InstanceId) : Option (Viewer α) :=
  (coordinator.instance? id).map Instance.viewer

/-- Whether an instance is open. -/
def isOpen (coordinator : Coordinator α) (id : InstanceId) : Bool :=
  (coordinator.instance? id).isSome

/-- The number of open viewers. -/
def count (coordinator : Coordinator α) : Nat :=
  coordinator.instances.length

/-- The names of the open instances in ascending order. -/
def ids (coordinator : Coordinator α) : List InstanceId :=
  (coordinator.instances.map (·.1)).mergeSort fun a b => !(b.text < a.text)

/-- The viewer after the events of its channel, the connections without them, and how many there
were. -/
def drain (connections : Connections) (viewer : Viewer α) (channel : Nat) :
    Connections × Viewer α × Nat :=
  let (connections, sent) := connections.take channel
  (connections, sent.foldl (fun viewer item => viewer.apply item.event) viewer, sent.length)

/-- Closes a viewer. Its connection ends first, and what that still delivers is applied, so that the
viewer handed back holds every record received. -/
def close (coordinator : Coordinator α) (id : InstanceId) (now : Nat) :
    Coordinator α × Option (Viewer α) :=
  match coordinator.instance? id with
  | none => (coordinator, none)
  | some entry =>
    let (connections, _) := coordinator.connections.disconnect id.text now
    let (connections, viewer, _) := drain connections entry.viewer entry.channel
    ({ coordinator with
        connections
        instances := coordinator.instances.filter (·.1 ≠ id) }, some viewer)

/-- Opens a viewer for a job. One that is open for it already is closed before. -/
def openViewer (coordinator : Coordinator α) (job url : String) (now : Nat) :
    Coordinator α × InstanceId :=
  let id := InstanceId.ofJob job
  let (coordinator, _) := coordinator.close id now
  let (connections, channel) := coordinator.connections.connect id.text url now
  let viewer := Viewer.new job coordinator.config.layout coordinator.config.showDebug
  ({ coordinator with
      connections
      instances := coordinator.instances ++ [(id, ⟨viewer, channel⟩)] }, id)

/-- Opens the viewer of a job, or closes it if it is open. The instance is told if it is open
afterwards. -/
def toggle (coordinator : Coordinator α) (job url : String) (now : Nat) :
    Coordinator α × Option InstanceId :=
  if coordinator.isOpen (InstanceId.ofJob job) then
    ((coordinator.close (InstanceId.ofJob job) now).1, none)
  else
    let (coordinator, id) := coordinator.openViewer job url now
    (coordinator, some id)

/-- One open instance takes its events and looks at a scroll that has settled. -/
def pumpInstance (now : Nat) (connections : Connections) (entry : Instance α) :
    Connections × Instance α × Nat :=
  let (connections, viewer, applied) := drain connections entry.viewer entry.channel
  (connections, { entry with viewer := viewer.settle now }, applied)

/-- All open instances one after the other. -/
def pumpAll (now : Nat) (connections : Connections) :
    List (InstanceId × Instance α) → Connections × List (InstanceId × Instance α) × Nat
  | [] => (connections, [], 0)
  | (id, entry) :: rest =>
    let (connections, entry, applied) := pumpInstance now connections entry
    let (connections, rest, more) := pumpAll now connections rest
    (connections, (id, entry) :: rest, applied + more)

/-- Applies the events that have arrived and looks at scrolls that have settled, in every viewer. The
number of events applied is told. -/
def pump (coordinator : Coordinator α) (now : Nat) : Coordinator α × Nat :=
  let (connections, instances, applied) := pumpAll now coordinator.connections coordinator.instances
  ({ coordinator with connections, instances }, applied)

/-- The connection of an instance, seen from outside. -/
def connection? (coordinator : Coordinator α) (id : InstanceId) : Option Snapshot :=
  coordinator.connections.snapshot? id.text

/-- The coordinator with the viewer of an instance changed. -/
def setViewer (coordinator : Coordinator α) (id : InstanceId) (viewer : Viewer α) :
    Coordinator α :=
  { coordinator with
    instances := coordinator.instances.map fun (other, entry) =>
      if other = id then (other, { entry with viewer }) else (other, entry) }

/-- Changes the viewer of an open instance, and tells whether it is open. -/
def withViewer (coordinator : Coordinator α) (id : InstanceId) (change : Viewer α → Viewer α) :
    Coordinator α × Bool :=
  match coordinator.viewer? id with
  | some viewer => (coordinator.setViewer id (change viewer), true)
  | none => (coordinator, false)

/-- Searches for another text. -/
def setSearch (coordinator : Coordinator α) (id : InstanceId) (text : String) :
    Coordinator α × Bool :=
  coordinator.withViewer id (·.setSearch text)

/-- Shows or hides verbose records. -/
def setShowDebug (coordinator : Coordinator α) (id : InstanceId) (showDebug : Bool) :
    Coordinator α × Bool :=
  coordinator.withViewer id (·.setShowDebug showDebug)

/-- Follows the end, or stops following it. -/
def toggleFollowTail (coordinator : Coordinator α) (id : InstanceId) : Coordinator α × Bool :=
  coordinator.withViewer id Viewer.toggleFollowTail

/-- Selects a line, or none, and tells the location. -/
def selectLine (coordinator : Coordinator α) (id : InstanceId) (line : Option UInt64) :
    Coordinator α × Option DeepLink :=
  match coordinator.viewer? id with
  | some viewer =>
    let viewer := viewer.selectLine line
    (coordinator.setViewer id viewer, some viewer.location)
  | none => (coordinator, none)

/-- Moves the selection, and tells the location if it moved. -/
def moveSelection (coordinator : Coordinator α) (id : InstanceId) (steps : Int) :
    Coordinator α × Option DeepLink :=
  match coordinator.viewer? id with
  | some viewer =>
    let (viewer, link) := viewer.moveSelection steps
    (coordinator.setViewer id viewer, link)
  | none => (coordinator, none)

/-- Selects a line and shows it as soon as it is there. -/
def openAt (coordinator : Coordinator α) (id : InstanceId) (line : UInt64) :
    Coordinator α × Bool :=
  coordinator.withViewer id (·.openAt line)

/-- Into fullscreen or out of it. -/
def toggleFullscreen (coordinator : Coordinator α) (id : InstanceId) : Coordinator α × Bool :=
  coordinator.withViewer id Viewer.toggleFullscreen

/-- Out of fullscreen. -/
def exitFullscreen (coordinator : Coordinator α) (id : InstanceId) : Coordinator α × Bool :=
  coordinator.withViewer id Viewer.exitFullscreen

/-- Scrolls by rows. -/
def scrollByRows (coordinator : Coordinator α) (id : InstanceId) (steps : Int) (now : Nat) :
    Coordinator α × Bool :=
  coordinator.withViewer id (·.scrollByRows steps now)

/-- Scrolls to an offset. -/
def scrollTo (coordinator : Coordinator α) (id : InstanceId) (offset : α) (now : Nat) :
    Coordinator α × Bool :=
  coordinator.withViewer id (·.scrollTo offset now)

/-- The container of a viewer takes another height. -/
def resize (coordinator : Coordinator α) (id : InstanceId) (height : α) : Coordinator α × Bool :=
  coordinator.withViewer id (·.resize height)

end Coordinator

end LiveLog
