import LiveLog.Proofs.Connection.Delivery
import LiveLog.Proofs.Connection.Protocol
import LiveLog.Proofs.Connection.Timeline
import LiveLog.Proofs.Coordinator.Feeding

/-! The banner of a viewer agrees with its connection. How the connection is doing is kept twice: the
connection keeps it for itself, and tells it in events that the viewer replays. The connection changes
what it keeps before it tells of it, so the two may differ while it is busy; wherever it waits, it has told
everything, and a viewer that has taken all events shows it. The failures in a row are kept in 32 bits on
both sides, so that what the two show of them agrees however many there were. -/
namespace LiveLog

open Connection (Move TaskStep)
open Protocol (Fits Phase Told)

/-! ### What the events tell -/

/-- The status after an event. A batch says nothing about it. -/
def Status.told (status : Status) : StreamEvent → Status
  | .opened => .live
  | .batch _ => status
  | .error message retryCount => .reconnecting retryCount message

namespace Viewer

variable {α : Type} [Scalar α]

theorem append_status (viewer : Viewer α) (records : List Record) :
    (viewer.append records).status = viewer.status := by
  unfold append
  split
  · rfl
  · dsimp only
    split
    · rfl
    · split
      · rfl
      · split <;> rfl

theorem apply_status (viewer : Viewer α) (event : StreamEvent) :
    (viewer.apply event).status = viewer.status.told event := by
  cases event with
  | batch raw => exact viewer.append_status _
  | opened => rfl
  | error message retryCount => rfl

theorem revealSelected_status (viewer : Viewer α) : viewer.revealSelected.status = viewer.status := by
  unfold revealSelected
  split
  · rfl
  · split <;> rfl

/-- Nothing a user does changes the status. -/
theorem acted_status (viewer : Viewer α) (action : Action α) :
    (viewer.acted action).status = viewer.status := by
  cases action with
  | setSearch text =>
    simp only [acted, setSearch]
    split
    · rfl
    · split
      · exact revealSelected_status _
      · rfl
  | setShowDebug showDebug =>
    simp only [acted, setShowDebug]
    split <;> rfl
  | moveSelection steps =>
    simp only [acted, moveSelection]
    split
    · rfl
    · split <;> rfl
  | openAt line => exact revealSelected_status _
  | _ => rfl

/-- The status of a viewer is what the events among its inputs told. -/
theorem fedAll_status (viewer : Viewer α) (inputs : List (Input α)) :
    (viewer.fedAll inputs).status = (inputs.filterMap Input.event?).foldl Status.told viewer.status := by
  induction inputs generalizing viewer with
  | nil => rfl
  | cons input inputs ih =>
    refine (ih (viewer.fed input)).trans ?_
    cases input with
    | event event => rw [fed, apply_status]; rfl
    | action action => rw [fed, acted_status]; rfl
    | settled now => rfl

end Viewer

/-- The status told by events sent, to a viewer that was new before them. -/
def Status.ofSent (sent : List Sent) : Status :=
  (sent.map Sent.event).foldl Status.told .connecting

@[simp] theorem Status.ofSent_concat (sent : List Sent) (item : Sent) :
    Status.ofSent (sent ++ [item]) = (Status.ofSent sent).told item.event := by
  simp [Status.ofSent]

/-- The failure a status tells. -/
def Status.error? : Status → Option String
  | .connecting => none
  | .live => none
  | .reconnecting _ error => some error

/-- The status that events told in a row lead to. -/
inductive Shows : Phase → Status → Prop where
  | connecting : Shows (.down 0) .connecting
  | live : Shows .up .live
  | reconnecting (failures : Nat) (cause : String) :
      Shows (.down (failures + 1)) (.reconnecting (UInt32.ofNat (failures + 1)) cause)

theorem told_shows (told : Told events phase) : Shows phase (events.foldl Status.told .connecting) := by
  induction told with
  | nothing => exact .connecting
  | opened told ih =>
    rw [List.foldl_append]
    exact .live
  | batch told filled ih =>
    rw [List.foldl_append]
    exact ih
  | error told cause ih =>
    rw [List.foldl_append]
    exact .reconnecting _ cause

/-! ### What a connection keeps and what it has told -/

/-- A connection keeps no failure and is not connecting. -/
def Sound (connection : Connection) : Prop :=
  connection.lastError = none ∧ connection.isConnecting = false

/-- What a connection keeps and what it has told, by where it stands. It keeps the failure that it told last,
from the moment it counts one until its stream opens. -/
def Mirrors (told : Status) (connection : Connection) : Prop :=
  match connection.stage with
  | .starting => connection.lastError = told.error?
  | .opening => connection.lastError = told.error? ∧ connection.isConnecting = true
  | .greeting => True
  | .announcing => Sound connection
  | .reading _ => Sound connection
  | .storing _ _ => Sound connection
  | .flushing => Sound connection
  | .ending _ => Sound connection
  | .failing _ => True
  | .reporting cause _ => connection.lastError = some cause
  | .resting _ => connection.lastError = told.error? ∧ connection.lastError ≠ none
  | .stopped => True

/-- A delivery tells nothing about the connection, and changes nothing it keeps about itself. -/
private theorem flush_tells_nothing (connection : Connection) (delivered : List Sent) (now : Nat) :
    Status.ofSent (delivered ++ (connection.flush now).outbox) =
        Status.ofSent (delivered ++ connection.outbox) ∧
      (connection.flush now).lastError = connection.lastError ∧
      (connection.flush now).isConnecting = connection.isConnecting := by
  simp only [Connection.flush]
  split
  · exact ⟨rfl, rfl, rfl⟩
  · refine ⟨?_, rfl, rfl⟩
    rw [← List.append_assoc, Status.ofSent_concat]
    rfl

private theorem mirrors_proceed (settings : StreamSettings) (connection : Connection)
    (delivered : List Sent) (now : Nat)
    (mirrors : Mirrors (Status.ofSent (delivered ++ connection.outbox)) connection) :
    Mirrors (Status.ofSent (delivered ++ (connection.proceed settings now).outbox))
      (connection.proceed settings now) := by
  have flushed := flush_tells_nothing connection delivered now
  cases stage : connection.stage with
  | starting =>
    simp only [Mirrors, stage] at mirrors
    simp only [Connection.proceed, stage, Mirrors]
    exact ⟨mirrors, trivial⟩
  | greeting =>
    simp only [Connection.proceed, stage, Mirrors]
    exact ⟨rfl, rfl⟩
  | announcing =>
    simp only [Mirrors, stage] at mirrors
    simp only [Connection.proceed, stage, Connection.emit]
    split
    · trivial
    · exact mirrors
  | storing items deadline =>
    simp only [Mirrors, stage] at mirrors
    simp only [Connection.proceed, stage]
    split <;> exact mirrors
  | flushing =>
    simp only [Mirrors, stage] at mirrors
    simp only [Connection.proceed, stage, Mirrors, Sound, flushed]
    exact mirrors
  | ending cause =>
    simp only [Connection.proceed, stage, Mirrors]
  | failing cause =>
    simp only [Connection.proceed, stage, Mirrors]
  | reporting cause attempt =>
    have kept : connection.lastError = some cause := by simpa only [Mirrors, stage] using mirrors
    simp only [Connection.proceed, stage, Connection.emit]
    split
    · trivial
    · rw [← List.append_assoc, Status.ofSent_concat]
      exact ⟨kept, by simp [kept]⟩
  | _ =>
    have same : connection.proceed settings now = connection := by
      simp only [Connection.proceed, stage]
    rwa [same]

private theorem mirrors_receive (mirrors : Mirrors told connection) (signal : Signal) :
    Mirrors told (connection.receive signal) := by
  cases stage : connection.stage with
  | opening =>
    cases signal with
    | accepted => simp only [Connection.receive, Mirrors, stage]
    | refused error => simp only [Connection.receive, Mirrors, stage]
    | _ =>
      simp only [Connection.receive, stage]
      exact mirrors
  | reading deadline =>
    have sound : Sound connection := by simpa only [Mirrors, stage] using mirrors
    cases signal with
    | payload text =>
      rw [Connection.receive_payload stage]
      split
      · exact mirrors
      · exact sound
    | broken error =>
      simp only [Connection.receive, stage]
      exact sound
    | _ =>
      simp only [Connection.receive, stage]
      exact mirrors
  | _ =>
    simp only [Connection.receive, stage]
    exact mirrors

private theorem mirrors_wake (mirrors : Mirrors told connection) : Mirrors told connection.wake := by
  cases stage : connection.stage with
  | reading deadline =>
    cases deadline with
    | none =>
      simp only [Connection.wake, stage]
      exact mirrors
    | some due =>
      have sound : Sound connection := by simpa only [Mirrors, stage] using mirrors
      simp only [Connection.wake, stage]
      exact sound
  | resting moment =>
    have kept : connection.lastError = told.error? ∧ connection.lastError ≠ none := by
      simpa only [Mirrors, stage] using mirrors
    simp only [Connection.wake, stage]
    exact kept.1
  | _ =>
    simp only [Connection.wake, stage]
    exact mirrors

/-- Closing tells nothing either. -/
private theorem mirrors_close (connection : Connection) (delivered : List Sent) (now : Nat)
    (mirrors : Mirrors (Status.ofSent (delivered ++ connection.outbox)) connection) :
    Mirrors (Status.ofSent (delivered ++ (connection.close now).outbox)) (connection.close now) := by
  obtain ⟨told, failed, connecting⟩ := flush_tells_nothing connection delivered now
  have stage : (connection.flush now).stage = connection.stage := by
    simp only [Connection.flush]
    split <;> rfl
  simpa only [Connection.close, Mirrors, Sound, told, failed, connecting, stage] using mirrors

namespace Watched

/-- What a connection keeps and what it has told go together, whatever happens to it. -/
theorem mirrors_after {watched : Watched} (settings : StreamSettings)
    (mirrors : Mirrors (Status.ofSent watched.sent) watched.connection) (move : Move) :
    Mirrors (Status.ofSent (watched.after settings move).sent)
      (watched.after settings move).connection := by
  cases move with
  | task step =>
    rw [sent_step]
    cases step with
    | proceed now => exact mirrors_proceed settings watched.connection _ now mirrors
    | receive signal =>
      obtain ⟨stage, moved⟩ := watched.connection.receive_moves_stage signal
      have outbox : (watched.connection.receive signal).outbox = watched.connection.outbox := by
        rw [moved]
      simp only [Connection.afterStep, outbox]
      exact mirrors_receive mirrors signal
    | wake =>
      obtain ⟨stage, moved⟩ := watched.connection.wake_moves_stage
      have outbox : watched.connection.wake.outbox = watched.connection.outbox := by rw [moved]
      simp only [Connection.afterStep, outbox]
      exact mirrors_wake mirrors
    | stop => trivial
  | close now => exact mirrors_close watched.connection _ now mirrors
  | take =>
    have same : (watched.after settings .take).sent = watched.sent := List.append_nil _
    rw [same]
    exact mirrors

theorem mirrors_run (settings : StreamSettings) (url : String) (moves : List Move) :
    Mirrors (Status.ofSent ((fresh url).run settings moves).sent)
      ((fresh url).run settings moves).connection := by
  induction moves using List.reverseRecOn with
  | nil => rfl
  | append_singleton moves move ih =>
    rw [run_concat]
    exact mirrors_after settings ih move

end Watched

/-! ### Viewers and connections at rest -/

/-- A status and what can be seen of a connection say the same, the failures in a row being so many. -/
structure Agrees (failures : Nat) (status : Status) (snapshot : Snapshot) : Prop where
  connecting : status = .connecting ↔ failures = 0 ∧ snapshot.isConnecting = true
  live : status = .live ↔ failures = 0 ∧ snapshot.isConnecting = false
  reconnecting : ∀ attempts error, status = .reconnecting attempts error ↔
    0 < failures ∧ attempts = snapshot.retryCount ∧ snapshot.lastError = some error
  no_error : snapshot.lastError = none ↔ failures = 0

variable {connection : Connection} {cause : String}

/-- Where no failure is kept, the status depends on whether the connection is connecting; -/
private theorem agrees_connecting (kept : connection.lastError = none)
    (connecting : connection.isConnecting = true) : Agrees 0 .connecting connection.snapshot := by
  constructor <;> simp [Connection.snapshot, kept, connecting]

private theorem agrees_live (sound : Sound connection) : Agrees 0 .live connection.snapshot := by
  obtain ⟨kept, connecting⟩ := sound
  constructor <;> simp [Connection.snapshot, kept, connecting]

/-- where one is kept, it does not. -/
private theorem agrees_reconnecting (counted : connection.retryCount = attempts)
    (kept : connection.lastError = some cause) :
    Agrees (failures + 1) (.reconnecting attempts cause) connection.snapshot := by
  constructor
  case reconnecting =>
    intro others error
    constructor
    · intro same
      cases same
      exact ⟨Nat.succ_pos _, counted.symm, kept⟩
    · rintro ⟨-, rfl, same⟩
      rw [Option.some.inj (kept.symm.trans same), ← counted]
      rfl
  all_goals simp [Connection.snapshot, kept]

/-- A connection without a stream agrees by the failure it keeps, which is the one it told. -/
private theorem agrees_down (shows : Shows phase status) (down : phase ≠ .up)
    (counted : connection.retryCount = UInt32.ofNat phase.failures)
    (kept : connection.lastError = status.error?)
    (connecting : connection.lastError = none → connection.isConnecting = true) :
    Agrees phase.failures status connection.snapshot := by
  cases shows with
  | connecting => exact agrees_connecting kept (connecting kept)
  | live => exact absurd rfl down
  | reconnecting failures cause => exact agrees_reconnecting counted kept

/-- What an open connection has told by the time it waits agrees with what can be seen of it, which has the
failures in a row in 32 bits. -/
theorem agrees_at_rest (shows : Shows phase status) (fits : Fits phase connection)
    (mirrors : Mirrors status connection) (opened : connection.closed = false)
    (waits : connection.waits now = true) :
    connection.retryCount = UInt32.ofNat phase.failures ∧
      Agrees phase.failures status connection.snapshot := by
  rcases Connection.waits_cases opened waits with stage | ⟨deadline, stage, -⟩ | ⟨wake, stage, -⟩
  · simp only [Fits, stage] at fits
    simp only [Mirrors, stage] at mirrors
    obtain ⟨down, counted, -⟩ := fits
    obtain ⟨kept, connecting⟩ := mirrors
    exact ⟨counted, agrees_down shows down counted kept fun _ => connecting⟩
  · simp only [Fits, stage] at fits
    simp only [Mirrors, stage] at mirrors
    obtain ⟨rfl, counted⟩ := fits
    cases shows
    exact ⟨counted, agrees_live mirrors⟩
  · simp only [Fits, stage] at fits
    simp only [Mirrors, stage] at mirrors
    obtain ⟨down, counted, -⟩ := fits
    obtain ⟨kept, failed⟩ := mirrors
    exact ⟨counted, agrees_down shows down counted kept fun unfailed => absurd unfailed failed⟩

namespace Service

variable {α : Type} {service : Service α} {config : Config α} {id : InstanceId}

/-- The connection of an open instance can be seen. -/
theorem Paired.snapshot (paired : service.Paired)
    (found : service.coordinator.instance? id = some entry)
    (present : service.coordinator.connections.all[entry.channel]? = some connection) :
    service.coordinator.connection? id = some connection.snapshot := by
  have used := paired.number? id
  rw [found] at used
  simp [Coordinator.connection?, Connections.snapshot?, used, present]

/-- The failures in a row of the connection an open instance has: those it told since its stream was last
open. -/
def failures (service : Service α) (id : InstanceId) : Nat :=
  (service.coordinator.instance? id).elim 0 fun entry =>
    Protocol.failuresTold ((service.traffic.sent entry.channel).map Sent.event)

theorem failures_of_open (found : service.coordinator.instance? id = some entry)
    (present : service.traffic.watched? entry.channel = some watched) :
    service.failures id = Protocol.failuresTold watched.events := by
  simp [failures, found, Traffic.sent, present, Watched.events]

/-- Whether every task of the connections waits. -/
def waits (service : Service α) (now : Nat) : Bool :=
  service.coordinator.connections.all.all (·.waits now)

variable [Scalar α]

/-- What an open viewer shows, once it has taken all that its connection sent, is what that told. -/
theorem Fed.status (fed : Fed config id viewer watched) (emptied : watched.connection.outbox = []) :
    viewer.status = Status.ofSent watched.sent := by
  obtain ⟨job, inputs, -, rfl, events⟩ := fed.history
  rw [Viewer.fedAll_status, events, Watched.sent, emptied, List.append_nil]
  rfl

/-- A pump leaves nothing in the channel of an open instance. -/
theorem pumped_outbox (paired : service.Paired) (configured : service.Configured config)
    (held : ((service.after (.pump now)).alone id).held = some (viewer, watched)) :
    watched.connection.outbox = [] := by
  rw [alone_after paired configured] at held
  obtain ⟨before, -, changed⟩ := Option.map_eq_some_iff.mp held
  rw [← (Prod.mk.inj changed).2]
  rfl

/-- The banner agrees with the connection: at every moment of every run at which all tasks wait and a
pump has just been made, the status of each open viewer is determined by what can be seen of its
connection. The failures in a row are kept in 32 bits; as long as they fit, the count that can be seen says
how many there were. -/
theorem banner_agrees_with_connection (config : Config α) (acts : List (Act α)) (now : Nat) :
    let service := ((start config).run acts).after (.pump now)
    service.waits now = true → ∀ id viewer, service.coordinator.viewer? id = some viewer →
      ∃ snapshot, service.coordinator.connection? id = some snapshot ∧
        snapshot.retryCount.toNat = service.failures id % UInt32.size ∧
        Agrees (service.failures id) viewer.status snapshot ∧
        (service.failures id < UInt32.size →
          Agrees snapshot.retryCount.toNat viewer.status snapshot) := by
  intro service waiting id viewer opened
  have pairedBefore : ((start config).run acts).Paired := paired_run (start_paired config) acts
  have configured : ((start config).run acts).Configured config :=
    configured_run (start_configured config) acts
  have fed : (service.alone id).Fed config id := by
    have same : (start config).run (acts ++ [.pump now]) = service := List.foldl_append
    exact same ▸ fed_run config (acts ++ [.pump now]) id
  have paired : service.Paired := paired_after pairedBefore (.pump now)
  obtain ⟨entry, found, rfl⟩ := Option.map_eq_some_iff.mp opened
  obtain ⟨url, moves, serves⟩ := paired.serves found
  have held := alone_open found serves
  have fed := fed _ _ held
  have present := Traffic.watched?_connection serves.present
  have waits := Array.all_eq_true'.mp waiting _ (Array.mem_of_getElem? present)
  obtain ⟨phase, told, fits⟩ := Watched.told_run service.traffic.table.settings url moves
  obtain ⟨counted, agrees⟩ := agrees_at_rest (told_shows told) (fits fed.in_use)
    (Watched.mirrors_run _ url moves) fed.in_use waits
  have inARow : service.failures id = phase.failures :=
    (failures_of_open found serves.present).trans (Protocol.told_failures told)
  have kept : (Connection.snapshot _).retryCount.toNat = phase.failures % UInt32.size :=
    (congrArg UInt32.toNat counted).trans UInt32.toNat_ofNat'
  have status := fed.status (pumped_outbox pairedBefore configured held)
  refine ⟨_, paired.snapshot found present, ?_⟩
  rw [inARow, status, kept]
  refine ⟨rfl, agrees, fun few => ?_⟩
  rw [Nat.mod_eq_of_lt few]
  exact agrees

/-- A viewer is open whose first request was refused. Its second is under way and has no answer yet. -/
theorem banner_during_second_request :
    let service : Service Rat := ((start Config.standard).run
      [.openViewer "build" "b" 0, .task (.ofJob "build") 0 (.proceed 0),
        .task (.ofJob "build") 0 (.receive (.refused .closed)), .task (.ofJob "build") 0 (.proceed 1),
        .task (.ofJob "build") 0 (.proceed 1), .pump 2, .task (.ofJob "build") 0 .wake,
        .task (.ofJob "build") 0 (.proceed 5001)]).after (.pump 5002)
    service.waits 5002 = true ∧ service.failures (.ofJob "build") = 1 ∧
      (service.coordinator.connection? (.ofJob "build")).map (·.isConnecting) = some true ∧
      ∃ viewer, service.coordinator.viewer? (.ofJob "build") = some viewer ∧
        viewer.status = .reconnecting 1 "stream closed by server" ∧
        ∃ snapshot, service.coordinator.connection? (.ofJob "build") = some snapshot ∧
          Agrees snapshot.retryCount.toNat viewer.status snapshot := by
  intro service
  have waiting : service.waits 5002 = true := by decide +kernel
  have once : service.failures (.ofJob "build") = 1 := by decide +kernel
  obtain ⟨viewer, opened, status⟩ : ∃ viewer,
      service.coordinator.viewer? (.ofJob "build") = some viewer ∧
        viewer.status = .reconnecting 1 "stream closed by server" :=
    Option.map_eq_some_iff.mp (by decide +kernel)
  obtain ⟨snapshot, seen, -, -, agrees⟩ :=
    banner_agrees_with_connection .standard _ 5002 waiting _ viewer opened
  have few : service.failures (.ofJob "build") < UInt32.size := by
    rw [once]
    decide
  exact ⟨waiting, once, by decide +kernel, viewer, opened, status, snapshot, seen, agrees few⟩

end Service
end LiveLog
