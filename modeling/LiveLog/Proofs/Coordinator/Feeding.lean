import LiveLog.Proofs.Coordinator.Alone

/-! A viewer is fed by its own connection. Both are made by the same opening, and until the viewer is
closed every event taken from that connection is applied to it, and no event of any other: neither of
another job's, nor of one that was made for the same job before. Which connection belongs to which viewer
is kept in two places, and the two never disagree. -/
namespace LiveLog

variable {α : Type}

/-- To receive events is to be fed with them. -/
theorem Viewer.received_eq [Scalar α] (viewer : Viewer α) (sent : List Sent) :
    viewer.received sent = viewer.fedAll (sent.map fun item => .event item.event) := by
  rw [received, fedAll, List.foldl_map]
  rfl

namespace Service

/-- An open viewer and its connection. The viewer was new when the connection was; what came to it from a
stream since then are the events taken from this connection. -/
structure Fed [Scalar α] (config : Config α) (id : InstanceId) (viewer : Viewer α)
    (watched : Watched) : Prop where
  history : ∃ job inputs, id = .ofJob job ∧
    viewer = (Viewer.new job config.layout config.showDebug).fedAll inputs ∧
    inputs.filterMap Viewer.Input.event? = watched.past.delivered.map Sent.event
  in_use : watched.connection.closed = false

variable [Scalar α] {service : Service α} {config : Config α} {id : InstanceId} {viewer : Viewer α}
  {watched later : Watched}

theorem fed_fresh (config : Config α) (job url : String) :
    Fed config (.ofJob job) (.new job config.layout config.showDebug) (.fresh url) where
  history := ⟨job, [], rfl, rfl, rfl⟩
  in_use := rfl

/-- A viewer stays fed by its connection if the events among its inputs are those taken meanwhile. -/
theorem Fed.go_on (fed : Fed config id viewer watched) (inputs : List (Viewer.Input α))
    (taken : later.past.delivered.map Sent.event =
      watched.past.delivered.map Sent.event ++ inputs.filterMap Viewer.Input.event?)
    (closed : later.connection.closed = watched.connection.closed) :
    Fed config id (viewer.fedAll inputs) later := by
  obtain ⟨job, earlier, rfl, rfl, events⟩ := fed.history
  refine ⟨⟨job, earlier ++ inputs, rfl, (Viewer.fedAll_append _ _ _).symm, ?_⟩, closed.trans fed.in_use⟩
  rw [List.filterMap_append, events, taken]

/-- A pump applies all events that wait in the channel. -/
private theorem fed_pump (fed : Fed config id viewer watched) (settings : StreamSettings)
    (now : Nat) :
    Fed config id ((viewer.received watched.connection.outbox).settle now)
      (watched.after settings .take) := by
  let inputs : List (Viewer.Input α) :=
    watched.connection.outbox.map (fun item => .event item.event) ++ [.settled now]
  have taken : (watched.after settings .take).past.delivered.map Sent.event =
      watched.past.delivered.map Sent.event ++ inputs.filterMap Viewer.Input.event? := by
    simp [inputs, Watched.after, Past.after, Viewer.Input.event?, List.filterMap_map,
      Function.comp_def]
  have fedOn := fed.go_on inputs taken rfl
  rw [Viewer.fedAll_append, ← Viewer.received_eq] at fedOn
  exact fedOn

private theorem fed_task (fed : Fed config id viewer watched) (settings : StreamSettings)
    (step : Connection.TaskStep) :
    Fed config id viewer (watched.after settings (.task step)) := by
  refine fed.go_on [] ?_ (Connection.step_keeps_closed settings step)
  rw [Watched.after, Watched.step_keeps_delivered]
  exact (List.append_nil _).symm

/-- What holds of an instance by itself: if it is open, its viewer is fed by its connection. -/
def Alone.Fed (config : Config α) (id : InstanceId) (alone : Alone α) : Prop :=
  ∀ viewer watched, alone.held = some (viewer, watched) → Service.Fed config id viewer watched

theorem fed_of_closed {alone : Alone α} (closed : alone.held = none) : alone.Fed config id := by
  intro viewer watched held
  rw [closed] at held
  cases held

private theorem fed_opened (config : Config α) (alone : Alone α) (job url : String) :
    (alone.opened config job url).Fed config (.ofJob job) := by
  intro viewer watched held
  obtain ⟨rfl, rfl⟩ := Prod.mk.inj (Option.some.inj held)
  exact fed_fresh config job url

private theorem fed_changed {alone : Alone α} (fed : alone.Fed config id)
    {change : Viewer α → Watched → Viewer α × Watched}
    (keeps : ∀ viewer watched, Service.Fed config id viewer watched →
      Service.Fed config id (change viewer watched).1 (change viewer watched).2) :
    (alone.changed change).Fed config id := by
  intro viewer watched held
  obtain ⟨⟨viewerBefore, watchedBefore⟩, heldBefore, changed⟩ := Option.map_eq_some_iff.mp held
  have changed : change viewerBefore watchedBefore = (viewer, watched) := changed
  have kept := keeps viewerBefore watchedBefore (fed viewerBefore watchedBefore heldBefore)
  rwa [changed] at kept

/-- An act that names an instance, or none, keeps its viewer fed by its connection. -/
private theorem fed_moved {alone : Alone α} (fed : alone.Fed config id) (act : Act α)
    (concerns : act.names?.all (· = id) = true) : (alone.moved config act).Fed config id := by
  cases act with
  | openViewer job url now =>
    obtain rfl : InstanceId.ofJob job = id := of_decide_eq_true concerns
    exact fed_opened config alone job url
  | close name now => exact fed_of_closed rfl
  | toggle job url now =>
    obtain rfl : InstanceId.ofJob job = id := of_decide_eq_true concerns
    simp only [Alone.moved]
    split
    · exact fed_of_closed rfl
    · exact fed_opened config alone job url
  | pump now =>
    apply fed_changed fed
    intro viewer watched fed
    exact fed_pump fed config.streamSettings now
  | user name action =>
    apply fed_changed fed
    intro viewer watched fed
    exact fed.go_on [.action action] (List.append_nil _).symm rfl
  | task name turn step =>
    simp only [Alone.moved]
    split
    · apply fed_changed fed
      intro viewer watched fed
      exact fed_task fed config.streamSettings step
    · exact fed

theorem fed_after {alone : Alone α} (fed : alone.Fed config id) (act : Act α) :
    (alone.after config id act).Fed config id := by
  rw [Alone.after]
  split
  · rename_i concerns
    exact fed_moved fed act concerns
  · exact fed

/-- In every run an open viewer is fed by its connection. -/
theorem fed_run (config : Config α) (acts : List (Act α)) (id : InstanceId) :
    (((start config).run acts).alone id).Fed config id := by
  rw [alone_run (start_paired config) (start_configured config)]
  have fresh : ((start config).alone id).Fed config id := fed_of_closed rfl
  generalize (start config).alone id = alone at fresh
  induction acts generalizing alone with
  | nil => exact fresh
  | cons act acts ih => exact ih _ (fed_after fresh act)

/-! ### Viewers and connections -/

/-- An open instance has one connection: the one that is registered for it, the last that was made for
it. It is what a fresh one became, and it feeds the viewer. -/
structure Connected (config : Config α) (service : Service α) (id : InstanceId)
    (entry : Instance α) : Prop where
  registered : service.coordinator.connections.number? id.text = some entry.channel
  latest : (service.made id).getLast? = some entry.channel
  feeds : ∃ url moves, let watched := (Watched.fresh url).run config.streamSettings moves
    service.traffic.watched? entry.channel = some watched ∧ Fed config id entry.viewer watched

/-- What opening a viewer leaves, whether or not one was open for the job: a new viewer on the channel of
a connection that was just made. -/
structure OpensAnew (config : Config α) (coordinator : Coordinator α) (made : InstanceId → List Nat)
    (job url : String) (now : Nat) (entry : Instance α) : Prop where
  found : (coordinator.openViewer job url now).1.instance? (.ofJob job) = some entry
  new : entry.viewer = .new job config.layout config.showDebug
  empty : entry.viewer.buffer.records = #[]
  filter : entry.viewer.buffer.filter = Filter.new "" config.showDebug
  status : entry.viewer.status = .connecting
  channel : entry.channel = ((coordinator.close (.ofJob job) now).1.connections.connect
    (InstanceId.ofJob job).text url now).2
  connection : (coordinator.openViewer job url now).1.connections.all[entry.channel]? =
    some (Connection.new url)
  unused : ∀ id, entry.channel ∉ made id

/-- The open viewers and the connections agree. -/
structure InStep (config : Config α) (service : Service α) : Prop where
  /-- The open instances are those that have a connection in use. -/
  same_ids : ∀ id, service.coordinator.isOpen id =
    service.coordinator.connections.isConnected id.text
  opened_once : (service.coordinator.instances.map (·.1)).Nodup
  registered_once : (service.coordinator.connections.registry.map (·.1)).Nodup
  /-- No connection is in use for two instances. -/
  apart : ∀ (id other : InstanceId) number,
    service.coordinator.connections.number? id.text = some number →
    service.coordinator.connections.number? other.text = some number → id = other
  connected : ∀ id entry, service.coordinator.instance? id = some entry →
    Connected config service id entry
  /-- Any other connection is closed and has nothing left to send. -/
  retired : ∀ number connection, service.coordinator.connections.all[number]? = some connection →
    (∀ id : InstanceId, service.coordinator.connections.number? id.text ≠ some number) →
    connection.closed = true ∧ connection.pending = []
  opens_anew : ∀ job url now, ∃ entry,
    OpensAnew config service.coordinator service.made job url now entry

private theorem connected_of_open (paired : service.Paired) (configured : service.Configured config)
    (fed : (service.alone id).Fed config id) {entry : Instance α}
    (found : service.coordinator.instance? id = some entry) : Connected config service id entry := by
  obtain ⟨url, moves, serves⟩ := paired.serves found
  rw [configured.settings] at serves
  refine ⟨?registered, paired.latest found, url, moves, serves.present, ?feeds⟩
  case registered => rw [paired.number?, found]; rfl
  case feeds => exact fed _ _ (alone_open found serves)

private theorem opens_anew (paired : service.Paired) (configured : service.Configured config)
    (job url : String) (now : Nat) : ∃ entry,
    OpensAnew config service.coordinator service.made job url now entry := by
  have found := instance?_opened service job url now
  rw [configured.tunables] at found
  refine ⟨_, found, rfl, rfl, rfl, rfl, ?channel,
    Traffic.watched?_connection (watched?_opened service job url now), ?unused⟩
  case channel =>
    simp only [Connections.connect, Connections.size_disconnect]
    rw [close_connections, size_closing]
  case unused =>
    intro id member
    exact Nat.lt_irrefl _ (paired.matched.in_range id _ member)

/-- Viewers and connections stay paired: in every run the open viewers are those of the connections in
use, each fed by its own, and a viewer that is opened begins anew. Different jobs have different
instances. -/
theorem viewers_and_connections_stay_paired (config : Config α) (acts : List (Act α)) :
    InStep config ((start config).run acts) ∧ Function.Injective InstanceId.ofJob := by
  have paired : ((start config).run acts).Paired := paired_run (start_paired config) acts
  have configured : ((start config).run acts).Configured config :=
    configured_run (start_configured config) acts
  have fed := fed_run config acts
  generalize (start config).run acts = service at paired configured fed ⊢
  refine ⟨⟨?same_ids, paired.opened_once, paired.registered_once, ?apart, ?connected, ?retired,
    opens_anew paired configured⟩, InstanceId.ofJob_injective⟩
  case same_ids =>
    intro id
    rw [Connections.isConnected, paired.number?, Option.isSome_map]
    rfl
  case apart =>
    intro id other number first second
    rw [paired.number?, ← Coordinator.lookup_channels] at first second
    exact paired.matched.channel_injective first second
  case connected =>
    intro id entry found
    exact connected_of_open paired configured (fed id) found
  case retired =>
    intro number connection present unused
    exact paired.retired present unused

end Service
end LiveLog
