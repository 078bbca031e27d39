import LiveLog.Coordinator
import LiveLog.Proofs.Connection.Traffic
import LiveLog.Proofs.Viewer.Inputs

/-! A coordinator in service. Its host opens, closes and toggles viewers, pumps, and passes on what
users do; between any two of these operations the task of any connection ever made takes a step. An
operation acts on the connections as a few acts of their traffic, so that everything known about
traffic holds here as well. Beside the coordinator stand the past of its connections, the numbers of
those made for each instance, and what was answered to the operations that named it; none of these is
read by an operation. -/
namespace LiveLog

open Connection (TaskStep)

namespace Viewer

variable {α : Type}

/-- What the coordinator answers to an operation on a viewer. -/
inductive Reply where
  | done (isOpen : Bool)
  | link (location : Option DeepLink)
  deriving DecidableEq

/-- The answer to an action on a viewer that is not open. -/
def Action.refusal : Action α → Reply
  | .selectLine _ => .link none
  | .moveSelection _ => .link none
  | _ => .done false

/-- The answer of an open viewer to an action. -/
def reply [Scalar α] (viewer : Viewer α) : Action α → Reply
  | .selectLine line => .link (some (viewer.selectLine line).location)
  | .moveSelection steps => .link (viewer.moveSelection steps).2
  | _ => .done true

end Viewer

namespace Coordinator

variable {α : Type} [Scalar α]

/-- The outcome of an operation, with its answer put as a reply. -/
def replied {β : Type} (reply : β → Viewer.Reply) (outcome : Coordinator α × β) :
    Coordinator α × Viewer.Reply :=
  (outcome.1, reply outcome.2)

/-- The operation that passes an action on to the viewer of an instance. -/
def act (coordinator : Coordinator α) (id : InstanceId) :
    Viewer.Action α → Coordinator α × Viewer.Reply
  | .setSearch text => replied .done (coordinator.setSearch id text)
  | .setShowDebug showDebug => replied .done (coordinator.setShowDebug id showDebug)
  | .toggleFollowTail => replied .done (coordinator.toggleFollowTail id)
  | .selectLine line => replied .link (coordinator.selectLine id line)
  | .moveSelection steps => replied .link (coordinator.moveSelection id steps)
  | .openAt line => replied .done (coordinator.openAt id line)
  | .toggleFullscreen => replied .done (coordinator.toggleFullscreen id)
  | .exitFullscreen => replied .done (coordinator.exitFullscreen id)
  | .scrollByRows steps now => replied .done (coordinator.scrollByRows id steps now)
  | .scrollTo offset now => replied .done (coordinator.scrollTo id offset now)
  | .resize height => replied .done (coordinator.resize id height)

variable {coordinator : Coordinator α} {id : InstanceId}

/-- An open viewer takes the action, and its reply is the answer. -/
theorem act_open (found : coordinator.viewer? id = some viewer) (action : Viewer.Action α) :
    coordinator.act id action =
      (coordinator.setViewer id (viewer.acted action), viewer.reply action) := by
  cases action <;> simp [act, replied, setSearch, setShowDebug, toggleFollowTail, selectLine,
    moveSelection, openAt, toggleFullscreen, exitFullscreen, scrollByRows, scrollTo, resize,
    withViewer, found, Viewer.acted, Viewer.reply]

/-- Without one nothing changes, and the answer says so. -/
theorem act_refused (missing : coordinator.viewer? id = none) (action : Viewer.Action α) :
    coordinator.act id action = (coordinator, action.refusal) := by
  cases action <;> simp [act, replied, setSearch, setShowDebug, toggleFollowTail, selectLine,
    moveSelection, openAt, toggleFullscreen, exitFullscreen, scrollByRows, scrollTo, resize,
    withViewer, missing, Viewer.Action.refusal]

end Coordinator

namespace Service

/-- What happens to a coordinator in service. -/
inductive Act (α : Type) where
  | openViewer (job url : String) (now : Nat)
  | close (id : InstanceId) (now : Nat)
  | toggle (job url : String) (now : Nat)
  | pump (now : Nat)
  | user (id : InstanceId) (action : Viewer.Action α)
  /-- The task of a connection takes a step. The connections made for an instance are counted from zero,
  in the order in which they were made. -/
  | task (id : InstanceId) (turn : Nat) (step : TaskStep)

/-- The instance an act names. A pump names none; a step of a task names the instance the connection
was made for. -/
def Act.names? {α : Type} : Act α → Option InstanceId
  | .openViewer job _ _ => some (.ofJob job)
  | .close id _ => some id
  | .toggle job _ _ => some (.ofJob job)
  | .pump _ => none
  | .user id _ => some id
  | .task id _ _ => some id

/-- What an operation that names an instance answers. -/
inductive Answer (α : Type) where
  | opened (id : InstanceId)
  | closed (viewer : Option (Viewer α))
  | toggled (id : Option InstanceId)
  | replied (reply : Viewer.Reply)

end Service

/-- A coordinator in service: the past of its connections, the numbers of those made for each instance,
and the answers to the operations that named it. -/
structure Service (α : Type) where
  coordinator : Coordinator α
  past : Nat → Past
  made : InstanceId → List Nat
  answers : InstanceId → List (Service.Answer α)

namespace Service

variable {α : Type} [Scalar α]

/-- Nothing is open, and nothing has happened. -/
def start (config : Config α) : Service α :=
  ⟨.new config, fun _ => {}, fun _ => [], fun _ => []⟩

/-- The traffic of the connections. -/
def traffic (service : Service α) : Traffic :=
  ⟨service.coordinator.connections, service.past⟩

/-- What closing an instance asks of the connections. -/
def closing (service : Service α) (id : InstanceId) (now : Nat) : List Traffic.Act :=
  match service.coordinator.instance? id with
  | none => []
  | some entry => [.disconnect id.text now, .take entry.channel]

/-- What an act asks of the connections. -/
def asked (service : Service α) : Act α → List Traffic.Act
  | .openViewer job url now =>
    service.closing (.ofJob job) now ++ [.connect (InstanceId.ofJob job).text url now]
  | .close id now => service.closing id now
  | .toggle job url now =>
    service.closing (.ofJob job) now ++
      if service.coordinator.isOpen (.ofJob job) then []
      else [.connect (InstanceId.ofJob job).text url now]
  | .pump _ => service.coordinator.instances.map fun (_, entry) => .take entry.channel
  | .user _ _ => []
  | .task id turn step => (service.made id)[turn]?.toList.map (.task · step)

/-- The instance a connection is made for. -/
def connects? (service : Service α) : Act α → Option InstanceId
  | .openViewer job _ _ => some (.ofJob job)
  | .toggle job _ _ =>
    if service.coordinator.isOpen (.ofJob job) then none else some (.ofJob job)
  | _ => none

/-- The coordinator after an act, and the answer. The number that a pump tells is about all instances
and is left out. A step of a task is none of the coordinator's doing and changes the connections only. -/
def operated (service : Service α) : Act α → Coordinator α × Option (Answer α)
  | .openViewer job url now =>
    let (coordinator, id) := service.coordinator.openViewer job url now
    (coordinator, some (.opened id))
  | .close id now =>
    let (coordinator, viewer) := service.coordinator.close id now
    (coordinator, some (.closed viewer))
  | .toggle job url now =>
    let (coordinator, id) := service.coordinator.toggle job url now
    (coordinator, some (.toggled id))
  | .pump now => ((service.coordinator.pump now).1, none)
  | .user id action =>
    let (coordinator, reply) := service.coordinator.act id action
    (coordinator, some (.replied reply))
  | .task id turn step =>
    ({ service.coordinator with
        connections := (service.traffic.run (service.asked (.task id turn step))).table }, none)

/-- The service after an act. -/
def after (service : Service α) (act : Act α) : Service α where
  coordinator := (service.operated act).1
  past := (service.traffic.run (service.asked act)).past
  made id := service.made id ++
    if service.connects? act = some id then [service.coordinator.connections.all.size] else []
  answers id := service.answers id ++
    if act.names? = some id then (service.operated act).2.toList else []

/-- The service after acts in their order. -/
def run (service : Service α) (acts : List (Act α)) : Service α :=
  acts.foldl after service

variable {service : Service α}

/-! ### The connections of a coordinator go the way of their traffic -/

/-- Closing an instance closes its connection and takes what that still delivers. -/
theorem close_connections (service : Service α) (id : InstanceId) (now : Nat) :
    (service.coordinator.close id now).1.connections =
      (service.traffic.run (service.closing id now)).table := by
  cases found : service.coordinator.instance? id with
  | none => simp [Coordinator.close, closing, found, traffic, Traffic.run]
  | some entry => simp [Coordinator.close, Coordinator.drain, closing, found, traffic, Traffic.run,
      Traffic.after]

theorem openViewer_connections (service : Service α) (job url : String) (now : Nat) :
    (service.coordinator.openViewer job url now).1.connections =
      (service.traffic.run (service.asked (.openViewer job url now))).table := by
  simp only [Coordinator.openViewer, asked, Traffic.run, List.foldl_append, List.foldl_cons,
    List.foldl_nil, Traffic.after]
  rw [close_connections]
  rfl

/-- A pump takes the events of every open instance. -/
theorem pumpAll_connections (now : Nat) (entries : List (InstanceId × Instance α))
    (traffic : Traffic) :
    (Coordinator.pumpAll now traffic.table entries).1 =
      (traffic.run (entries.map fun (_, entry) => .take entry.channel)).table := by
  induction entries generalizing traffic with
  | nil => rfl
  | cons entry entries ih => exact ih (traffic.after (.take entry.2.channel))

/-- What an act does to the connections is what it asks of their traffic. -/
theorem traffic_after (service : Service α) (act : Act α) :
    (service.after act).traffic = service.traffic.run (service.asked act) := by
  suffices same : (service.operated act).1.connections =
      (service.traffic.run (service.asked act)).table from
    congrArg (Traffic.mk · (service.traffic.run (service.asked act)).past) same
  cases act with
  | openViewer job url now => exact service.openViewer_connections job url now
  | close id now => exact service.close_connections id now
  | toggle job url now =>
    cases opened : service.coordinator.isOpen (.ofJob job) with
    | true =>
      simpa [operated, Coordinator.toggle, asked, opened] using
        service.close_connections (.ofJob job) now
    | false =>
      simpa [operated, Coordinator.toggle, asked, opened] using
        service.openViewer_connections job url now
  | pump now => exact pumpAll_connections now _ service.traffic
  | user id action =>
    cases found : service.coordinator.viewer? id with
    | none => simp [operated, Coordinator.act_refused found, asked, Traffic.run, traffic]
    | some viewer =>
      simp [operated, Coordinator.act_open found, asked, Traffic.run, traffic, Coordinator.setViewer]
  | task id turn step => rfl

end Service
end LiveLog
