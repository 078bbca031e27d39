import LiveLog.Proofs.Coordinator.Pairing

/-! One instance among all. Its viewer, the connection it has in use, and the answers to the operations
that name it go the way they would go if no other instance existed: under the acts that name it, and
under the pumps. -/
namespace LiveLog

open Connection (Move)

/-- The viewer after events that were sent to it. -/
def Viewer.received {α : Type} [Scalar α] (viewer : Viewer α) (sent : List Sent) : Viewer α :=
  sent.foldl (fun viewer item => viewer.apply item.event) viewer

namespace Coordinator

variable {α : Type} {coordinator : Coordinator α} {id : InstanceId} {entry : Instance α}

theorem viewer?_of_open (found : coordinator.instance? id = some entry) :
    coordinator.viewer? id = some entry.viewer :=
  congrArg (Option.map Instance.viewer) found

theorem viewer?_of_missing (missing : coordinator.instance? id = none) :
    coordinator.viewer? id = none :=
  congrArg (Option.map Instance.viewer) missing

/-! ### The instances after an operation -/

theorem instance?_setViewer (coordinator : Coordinator α) (id other : InstanceId)
    (viewer : Viewer α) :
    (coordinator.setViewer id viewer).instance? other =
      if other = id then (coordinator.instance? id).map fun entry => { entry with viewer }
      else coordinator.instance? other := by
  have renamed := lookup_map Function.injective_id
    (fun name (entry : Instance α) => if name = id then { entry with viewer } else entry)
    coordinator.instances other
  have same : (coordinator.setViewer id viewer).instances = coordinator.instances.map
      fun entry => (entry.1, if entry.1 = id then { entry.2 with viewer } else entry.2) := by
    apply List.map_congr_left
    intro entry _
    by_cases found : entry.1 = id <;> simp [found]
  rw [instance?, same]
  refine renamed.trans ?_
  split
  · rename_i found
    rw [found]
    rfl
  · exact Option.map_id'

variable [Scalar α]

theorem instance?_close (coordinator : Coordinator α) (id other : InstanceId) (now : Nat) :
    (coordinator.close id now).1.instance? other =
      if other = id then none else coordinator.instance? other := by
  cases found : coordinator.instance? id with
  | none =>
    simp only [close, found]
    split
    · rename_i same
      rw [same, found]
    · rfl
  | some entry =>
    simp only [close, found]
    exact lookup_without id coordinator.instances other

@[simp] theorem config_close (coordinator : Coordinator α) (id : InstanceId) (now : Nat) :
    (coordinator.close id now).1.config = coordinator.config := by
  cases found : coordinator.instance? id <;> simp [close, found]

theorem instance?_openViewer (coordinator : Coordinator α) (job url : String) (now : Nat)
    (other : InstanceId) :
    (coordinator.openViewer job url now).1.instance? other =
      if other = .ofJob job then
        some ⟨.new job coordinator.config.layout coordinator.config.showDebug,
          (coordinator.close (.ofJob job) now).1.connections.all.size⟩
      else coordinator.instance? other := by
  have closed := coordinator.instance?_close (.ofJob job) other now
  simp only [instance?] at closed
  simp only [openViewer, instance?, List.lookup_append, closed, config_close, Connections.connect,
    Connections.size_disconnect]
  by_cases same : other = .ofJob job
  · simp [same]
  · simp [same, List.lookup_cons, beq_false_of_ne same]

/-! ### A pump -/

/-- What a pump makes of an instance depends on its own connection only. -/
theorem pumpInstance_take (now : Nat) (connections : Connections) {entry : Instance α}
    (differs : number ≠ entry.channel) :
    (pumpInstance now (connections.take number).1 entry).2.1 =
      (pumpInstance now connections entry).2.1 := by
  simp [pumpInstance, drain, Connections.take, Connections.modify, Array.getElem?_modify, differs]

/-- Where no two instances share a channel, a pump treats each of them as if it were alone. -/
theorem pumpAll_instances (now : Nat) (connections : Connections)
    (entries : List (InstanceId × Instance α)) (apart : (entries.map (·.2.channel)).Nodup) :
    (pumpAll now connections entries).2.1 =
      entries.map fun (id, entry) => (id, (pumpInstance now connections entry).2.1) := by
  induction entries generalizing connections with
  | nil => rfl
  | cons first rest ih =>
    obtain ⟨absent, apart⟩ := List.nodup_cons.mp apart
    have others := ih (pumpInstance now connections first.2).1 apart
    simp only [pumpAll, List.map_cons]
    rw [others]
    congr 1
    refine List.map_congr_left fun entry member => ?_
    have differs : first.2.channel ≠ entry.2.channel := fun same =>
      absent (List.mem_map.mpr ⟨entry, member, same.symm⟩)
    exact congrArg (Prod.mk entry.1) (pumpInstance_take now connections differs)

end Coordinator

namespace Service

variable {α : Type}

/-- One instance by itself: how many connections were made for it; its viewer with the connection it
has in use, as long as it is open; and the answers to the operations that named it. -/
@[ext] structure Alone (α : Type) where
  made : Nat
  held : Option (Viewer α × Watched)
  answers : List (Answer α)

/-- What a service holds of an instance. -/
def alone (service : Service α) (id : InstanceId) : Alone α where
  made := (service.made id).length
  held := do
    let entry ← service.coordinator.instance? id
    let watched ← service.traffic.watched? entry.channel
    return (entry.viewer, watched)
  answers := service.answers id

namespace Alone

variable [Scalar α]

/-- A viewer is opened on a new connection. -/
def opened (config : Config α) (alone : Alone α) (job url : String) : Alone α :=
  { alone with
    made := alone.made + 1
    held := some (.new job config.layout config.showDebug, .fresh url) }

/-- The viewer is closed. -/
def closed (alone : Alone α) : Alone α :=
  { alone with held := none }

/-- The viewer and its connection are changed, if the instance is open. -/
def changed (alone : Alone α) (change : Viewer α → Watched → Viewer α × Watched) : Alone α :=
  { alone with held := alone.held.map fun (viewer, watched) => change viewer watched }

/-- The instance after an act that names it, and after a pump. -/
def moved (config : Config α) (alone : Alone α) : Act α → Alone α
  | .openViewer job url _ => alone.opened config job url
  | .close _ _ => alone.closed
  | .toggle job url _ => if alone.held.isSome then alone.closed else alone.opened config job url
  | .pump now => alone.changed fun viewer watched =>
    ((viewer.received watched.connection.outbox).settle now, watched.after config.streamSettings .take)
  | .user _ action => alone.changed fun viewer watched => (viewer.acted action, watched)
  | .task _ turn step =>
    -- Only the connection made last is in use.
    if turn + 1 = alone.made then
      alone.changed fun viewer watched => (viewer, watched.after config.streamSettings (.task step))
    else alone

/-- The answer to an act that names the instance. -/
def answer (alone : Alone α) : Act α → Option (Answer α)
  | .openViewer job _ _ => some (.opened (.ofJob job))
  | .close _ now => some (.closed (alone.held.map fun (viewer, watched) =>
      viewer.received (watched.connection.close now).outbox))
  | .toggle job _ _ => some (.toggled (if alone.held.isSome then none else some (.ofJob job)))
  | .pump _ => none
  | .user _ action => some (.replied (alone.held.elim action.refusal (·.1.reply action)))
  | .task _ _ _ => none

/-- The instance of a name after an act. One that names another instance does not concern it. -/
def after (config : Config α) (id : InstanceId) (alone : Alone α) (act : Act α) : Alone α :=
  if act.names?.all (· = id) then
    { alone.moved config act with answers := alone.answers ++ (alone.answer act).toList }
  else alone

end Alone

/-- The tunables of a service are those of its coordinator and of its connections. -/
structure Configured (config : Config α) (service : Service α) : Prop where
  tunables : service.coordinator.config = config
  settings : service.traffic.table.settings = config.streamSettings

variable {service : Service α} {config : Config α} {id other : InstanceId} {entry : Instance α}

theorem start_configured (config : Config α) : (start config).Configured config := ⟨rfl, rfl⟩

/-- An act that names another instance leaves this one alone. -/
theorem Alone.after_aside [Scalar α] {act : Act α} (named : act.names? = some other)
    (differs : other ≠ id) (config : Config α) (alone : Alone α) :
    alone.after config id act = alone := by
  simp [after, named, differs]

/-! ### An open instance and its connection -/

/-- The connection of an open instance goes its own way. -/
theorem Paired.serves (paired : service.Paired)
    (found : service.coordinator.instance? id = some entry) :
    ∃ url moves, service.traffic.Serves id.text entry.channel
      ((Watched.fresh url).run service.traffic.table.settings moves) := by
  have used := paired.number? id
  rw [found] at used
  exact Traffic.serves_of_use paired.orderly used

theorem alone_open (found : service.coordinator.instance? id = some entry)
    (serves : service.traffic.Serves id.text entry.channel watched) :
    (service.alone id).held = some (entry.viewer, watched) := by
  simp [alone, found, serves.present]

theorem alone_closed (missing : service.coordinator.instance? id = none) :
    (service.alone id).held = none := by
  simp [alone, missing]

/-- An instance is not open and holds nothing, or it is open and holds its viewer with the connection
that serves it. -/
theorem held_cases (paired : service.Paired) (id : InstanceId) :
    service.coordinator.instance? id = none ∧ (service.alone id).held = none ∨
      ∃ entry watched, service.coordinator.instance? id = some entry ∧
        service.traffic.Serves id.text entry.channel watched ∧
        (service.alone id).held = some (entry.viewer, watched) := by
  cases found : service.coordinator.instance? id with
  | none => exact .inl ⟨rfl, alone_closed found⟩
  | some entry =>
    obtain ⟨url, moves, serves⟩ := paired.serves found
    exact .inr ⟨entry, _, rfl, serves, alone_open found serves⟩

theorem held_isSome (paired : service.Paired) (id : InstanceId) :
    (service.alone id).held.isSome = service.coordinator.isOpen id := by
  rcases held_cases paired id with ⟨missing, held⟩ | ⟨entry, watched, found, -, held⟩
  · rw [held, Coordinator.isOpen, missing]
    rfl
  · rw [held, Coordinator.isOpen, found]
    rfl

/-- Two open instances have different channels. -/
theorem Paired.channels_differ (paired : service.Paired) {other : InstanceId} {another : Instance α}
    (found : service.coordinator.instance? id = some entry)
    (foundOther : service.coordinator.instance? other = some another) (differs : other ≠ id) :
    another.channel ≠ entry.channel := by
  intro same
  have first := Coordinator.lookup_channels_of_open foundOther
  rw [same] at first
  exact differs (paired.matched.channel_injective first (Coordinator.lookup_channels_of_open found))

/-- Closing another instance asks nothing of a connection. -/
theorem closing_aside (paired : service.Paired)
    (found : service.coordinator.instance? id = some entry) (differs : other ≠ id) (now : Nat) :
    (service.closing other now).filterMap (Traffic.moveOf? id.text entry.channel) = [] := by
  have text : other.text ≠ id.text := fun same => differs (InstanceId.text_injective same)
  cases foundOther : service.coordinator.instance? other with
  | none => simp [closing, foundOther]
  | some another =>
    have channel := paired.channels_differ found foundOther differs
    simp [closing, foundOther, Traffic.moveOf?, text, channel]

/-- Nor does any other act that names another instance. -/
private theorem asked_aside (paired : service.Paired)
    (found : service.coordinator.instance? id = some entry) (act : Act α)
    (named : act.names? = some other) (differs : other ≠ id) :
    (service.asked act).filterMap (Traffic.moveOf? id.text entry.channel) = [] := by
  have text : other.text ≠ id.text := fun same => differs (InstanceId.text_injective same)
  cases act with
  | pump now => cases named
  | close name now =>
    obtain rfl : name = other := Option.some.inj named
    exact closing_aside paired found differs now
  | openViewer job url now =>
    obtain rfl : InstanceId.ofJob job = other := Option.some.inj named
    simp [asked, closing_aside paired found differs now, Traffic.moveOf?, text]
  | toggle job url now =>
    obtain rfl : InstanceId.ofJob job = other := Option.some.inj named
    simp only [asked, List.filterMap_append, closing_aside paired found differs now]
    split <;> simp [Traffic.moveOf?, text]
  | user name action => rfl
  | task name turn step =>
    obtain rfl : name = other := Option.some.inj named
    cases made : (service.made name)[turn]? with
    | none => simp [asked, made]
    | some number =>
      have channel : number ≠ entry.channel := by
        intro same
        have own : entry.channel ∈ service.made id := List.mem_of_getLast? (paired.latest found)
        exact differs (paired.matched.apart name id number (List.mem_of_getElem? made) (same ▸ own))
      simp [asked, made, Traffic.moveOf?, channel]

variable [Scalar α]

theorem configured_after (configured : service.Configured config) (act : Act α) :
    (service.after act).Configured config where
  tunables := by
    rw [← configured.tunables]
    cases act with
    | openViewer job url now => simp [after, operated, Coordinator.openViewer]
    | close id now => simp [after, operated]
    | toggle job url now =>
      simp only [after, operated, Coordinator.toggle]
      split <;> simp [Coordinator.openViewer]
    | pump now => rfl
    | user id action =>
      cases found : service.coordinator.viewer? id with
      | none => simp [after, operated, Coordinator.act_refused found]
      | some viewer => simp [after, operated, Coordinator.act_open found, Coordinator.setViewer]
    | task id turn step => rfl
  settings := by rw [traffic_after, Traffic.settings_run, configured.settings]

theorem configured_run (configured : service.Configured config) (acts : List (Act α)) :
    (service.run acts).Configured config := by
  induction acts generalizing service with
  | nil => exact configured
  | cons act acts ih => exact ih (configured_after configured act)

/-- An instance that stays open, perhaps with another viewer, has its connection make the moves that the
act asks of it. -/
theorem held_after (serves : service.traffic.Serves id.text entry.channel watched) (act : Act α)
    {viewer : Viewer α} {moves : List Move}
    (stays : (service.after act).coordinator.instance? id = some { entry with viewer })
    (asked : (service.asked act).filterMap (Traffic.moveOf? id.text entry.channel) = moves) :
    ((service.after act).alone id).held =
      some (viewer, watched.run service.traffic.table.settings moves) := by
  have later := Traffic.serves_run serves (service.asked act)
  rw [← traffic_after, asked] at later
  exact alone_open stays later

/-! ### One act -/

/-- An act that names another instance leaves the viewer of this one alone. -/
private theorem instance?_aside (service : Service α) (act : Act α)
    (named : act.names? = some other) (differs : other ≠ id) :
    (service.after act).coordinator.instance? id = service.coordinator.instance? id := by
  cases act with
  | pump now => cases named
  | close name now =>
    obtain rfl : name = other := Option.some.inj named
    exact (service.coordinator.instance?_close name id now).trans (if_neg differs.symm)
  | openViewer job url now =>
    obtain rfl : InstanceId.ofJob job = other := Option.some.inj named
    exact (service.coordinator.instance?_openViewer job url now id).trans (if_neg differs.symm)
  | toggle job url now =>
    obtain rfl : InstanceId.ofJob job = other := Option.some.inj named
    cases opened : service.coordinator.isOpen (.ofJob job) with
    | true =>
      rw [toggle_open opened]
      exact (service.coordinator.instance?_close _ id now).trans (if_neg differs.symm)
    | false =>
      rw [toggle_closed opened]
      exact (service.coordinator.instance?_openViewer job url now id).trans (if_neg differs.symm)
  | user name action =>
    obtain rfl : name = other := Option.some.inj named
    simp only [after, operated]
    cases found : service.coordinator.viewer? name with
    | none => rw [Coordinator.act_refused found]
    | some viewer =>
      rw [Coordinator.act_open found]
      exact (service.coordinator.instance?_setViewer name id _).trans (if_neg differs.symm)
  | task name turn step => rfl

/-- It leaves all that this instance is by itself alone. -/
private theorem alone_aside (paired : service.Paired) (act : Act α) (named : act.names? = some other)
    (differs : other ≠ id) : (service.after act).alone id = service.alone id := by
  have unconnected : service.connects? act ≠ some id := by
    cases act <;> simp_all [connects?, Act.names?]
  have same := instance?_aside service act named differs
  ext1
  · simp [alone, after, unconnected]
  · rcases held_cases paired id with ⟨missing, held⟩ | ⟨entry, watched, found, serves, held⟩
    · rw [held, alone_closed (same.trans missing)]
    · rw [held]
      exact held_after serves act (same.trans found) (asked_aside paired found act named differs)
  · simp [alone, after, named, differs]

/-- Of takes that all name different connections, one concerns a connection among them. -/
private theorem taken_once {numbers : List Nat} (apart : numbers.Nodup) (member : number ∈ numbers) :
    (numbers.map Traffic.Act.take).filterMap (Traffic.moveOf? name number) = [.take] := by
  induction numbers with
  | nil => cases member
  | cons first rest ih =>
    obtain ⟨absent, apart⟩ := List.nodup_cons.mp apart
    rcases List.mem_cons.mp member with rfl | later
    · have none_else : (rest.map Traffic.Act.take).filterMap (Traffic.moveOf? name number) = [] := by
        rw [List.filterMap_eq_nil_iff]
        intro act taken
        obtain ⟨other, found, rfl⟩ := List.mem_map.mp taken
        have differs : other ≠ number := fun same => absent (same ▸ found)
        simp [Traffic.moveOf?, differs]
      simp [Traffic.moveOf?, none_else]
    · have differs : first ≠ number := fun same => absent (same ▸ later)
      simpa [Traffic.moveOf?, differs] using ih apart later

/-- A pump hands every open viewer the events of its own connection. -/
private theorem held_pump (paired : service.Paired) (now : Nat) (id : InstanceId) :
    ((service.after (.pump now)).alone id).held =
      (service.alone id).held.map fun (viewer, watched) =>
        ((viewer.received watched.connection.outbox).settle now,
          watched.after service.traffic.table.settings .take) := by
  -- The instances take their events one after the other, but no two from the same channel.
  have apart : (service.coordinator.instances.map (·.2.channel)).Nodup := by
    simpa [Coordinator.channels, Function.comp_def] using paired.matched.numbers_once
  have pumped : (service.after (.pump now)).coordinator.instance? id =
      (service.coordinator.instance? id).map fun entry =>
        (Coordinator.pumpInstance now service.coordinator.connections entry).2.1 := by
    simp only [after, operated, Coordinator.pump, Coordinator.instance?,
      Coordinator.pumpAll_instances now _ _ apart]
    exact lookup_map Function.injective_id
      (fun _ entry => (Coordinator.pumpInstance now service.coordinator.connections entry).2.1)
      service.coordinator.instances id
  rcases held_cases paired id with ⟨missing, held⟩ | ⟨entry, watched, found, serves, held⟩
  · rw [missing] at pumped
    rw [held, alone_closed pumped]
    rfl
  · rw [found] at pumped
    have taken : (service.asked (.pump now)).filterMap (Traffic.moveOf? id.text entry.channel) =
        [.take] := by
      have member : entry.channel ∈ service.coordinator.instances.map (·.2.channel) := by
        obtain ⟨before, after, split, -⟩ := List.lookup_eq_some_iff.mp found
        simp [split]
      simpa [asked, Function.comp_def] using taken_once apart member
    have outbox : service.coordinator.connections.all[entry.channel]?.elim [] Connection.outbox =
        watched.connection.outbox :=
      congrArg (Option.elim · [] Connection.outbox) (Traffic.watched?_connection serves.present)
    rw [held, held_after serves (.pump now) pumped taken]
    simp only [outbox]
    rfl

/-- A viewer that is opened is new, on the next channel. -/
theorem instance?_opened (service : Service α) (job url : String) (now : Nat) :
    (service.after (.openViewer job url now)).coordinator.instance? (.ofJob job) = some
      ⟨.new job service.coordinator.config.layout service.coordinator.config.showDebug,
        service.coordinator.connections.all.size⟩ := by
  have opened := service.coordinator.instance?_openViewer job url now (.ofJob job)
  rw [close_connections, size_closing, if_pos rfl] at opened
  exact opened

/-- The connection of that channel is new as well. -/
theorem watched?_opened (service : Service α) (job url : String) (now : Nat) :
    (service.after (.openViewer job url now)).traffic.watched?
      service.coordinator.connections.all.size = some (.fresh url) := by
  rw [traffic_after, run_openViewer, Traffic.after_connect, Traffic.watched?_placed, if_pos]
  rw [← size_closing service (.ofJob job) now]
  exact (Connections.size_disconnect _ _ _).symm

private theorem held_openViewer (service : Service α) (job url : String) (now : Nat) :
    ((service.after (.openViewer job url now)).alone (.ofJob job)).held =
      some (.new job service.coordinator.config.layout service.coordinator.config.showDebug,
        .fresh url) := by
  simp [alone, instance?_opened, watched?_opened]

private theorem held_user (paired : service.Paired) (id : InstanceId) (action : Viewer.Action α) :
    ((service.after (.user id action)).alone id).held =
      (service.alone id).held.map fun (viewer, watched) => (viewer.acted action, watched) := by
  rcases held_cases paired id with ⟨missing, held⟩ | ⟨entry, watched, found, serves, held⟩
  · have unseen := Coordinator.viewer?_of_missing missing
    have still : (service.after (.user id action)).coordinator.instance? id = none := by
      simp [after, operated, Coordinator.act_refused unseen, missing]
    rw [held, alone_closed still]
    rfl
  · have seen := Coordinator.viewer?_of_open found
    have stays : (service.after (.user id action)).coordinator.instance? id =
        some { entry with viewer := entry.viewer.acted action } := by
      simp [after, operated, Coordinator.act_open seen, Coordinator.instance?_setViewer, found]
    rw [held, held_after serves _ stays rfl]
    rfl

/-- A viewer answers its user, as long as it is open. -/
private theorem reply_user (paired : service.Paired) (id : InstanceId) (action : Viewer.Action α) :
    (service.coordinator.act id action).2 =
      (service.alone id).held.elim action.refusal (·.1.reply action) := by
  rcases held_cases paired id with ⟨missing, held⟩ | ⟨entry, watched, found, -, held⟩
  · rw [Coordinator.act_refused (Coordinator.viewer?_of_missing missing), held]
    rfl
  · rw [Coordinator.act_open (Coordinator.viewer?_of_open found), held]
    rfl

/-- A number found last among ascending ones stands in the last place only. -/
private theorem last_place {numbers : List Nat} (ascending : numbers.Pairwise (· < ·))
    (last : numbers.getLast? = some number) (turn : Nat) :
    numbers[turn]? = some number ↔ turn + 1 = numbers.length := by
  rw [List.getLast?_eq_getElem?] at last
  have inhabited : 0 < numbers.length :=
    Nat.zero_lt_of_lt (List.getElem?_eq_some_iff.mp last).1
  constructor
  · intro found
    have place : turn = numbers.length - 1 :=
      (List.getElem?_inj (List.getElem?_eq_some_iff.mp found).1 (ascending.imp Nat.ne_of_lt)).mp
        (found.trans last.symm)
    omega
  · intro place
    rw [← last]
    congr 1
    omega

/-- A step of a task moves an open viewer's connection if it is a step of the one made last. -/
private theorem held_task (paired : service.Paired) (id : InstanceId) (turn : Nat)
    (step : Connection.TaskStep) :
    ((service.after (.task id turn step)).alone id).held =
      if turn + 1 = (service.alone id).made then
        (service.alone id).held.map fun (viewer, watched) =>
          (viewer, watched.after service.traffic.table.settings (.task step))
      else (service.alone id).held := by
  rcases held_cases paired id with ⟨missing, held⟩ | ⟨entry, watched, found, serves, held⟩
  · have still : (service.after (.task id turn step)).coordinator.instance? id = none := missing
    rw [held, alone_closed still]
    split <;> rfl
  · have stays : (service.after (.task id turn step)).coordinator.instance? id = some entry := found
    have place := last_place (paired.matched.ascending id) (paired.latest found) turn
    rw [held]
    split
    · rename_i latest
      have asked : (service.asked (.task id turn step)).filterMap
          (Traffic.moveOf? id.text entry.channel) = [.task step] := by
        simp [asked, place.mpr latest, Traffic.moveOf?]
      exact held_after serves _ stays asked
    · rename_i older
      have asked : (service.asked (.task id turn step)).filterMap
          (Traffic.moveOf? id.text entry.channel) = [] := by
        cases made : (service.made id)[turn]? with
        | none => simp [asked, made]
        | some number =>
          have differs : number ≠ entry.channel := by
            rintro rfl
            exact older (place.mp made)
          simp [asked, made, Traffic.moveOf?, differs]
      exact held_after serves _ stays asked

private theorem held_close (service : Service α) (id : InstanceId) (now : Nat) :
    ((service.after (.close id now)).alone id).held = none := by
  apply alone_closed
  exact (service.coordinator.instance?_close id id now).trans (if_pos rfl)

/-- The viewer handed back has got what its connection still delivered at the close. -/
theorem closed_viewer (paired : service.Paired) (id : InstanceId) (now : Nat) :
    (service.coordinator.close id now).2 = (service.alone id).held.map fun (viewer, watched) =>
      viewer.received (watched.connection.close now).outbox := by
  rcases held_cases paired id with ⟨missing, held⟩ | ⟨entry, watched, found, serves, held⟩
  · rw [held]
    simp only [Coordinator.close, missing]
    rfl
  · have used : service.coordinator.connections.number? id.text = some entry.channel := by
      rw [paired.number?, found]
      rfl
    have left : ((service.coordinator.connections.disconnect id.text now).1.take entry.channel).2 =
        (watched.connection.close now).outbox := by
      have ended := service.coordinator.connections.all_disconnect id.text now entry.channel
      rw [if_pos used] at ended
      simp only [Connections.take, ended]
      exact congrArg (fun found => (Option.map (·.close now) found).elim [] _)
        (Traffic.watched?_connection serves.present)
    rw [held]
    simp only [Coordinator.close, Coordinator.drain, found, left]
    rfl

/-! ### An instance by itself, through an act -/

/-- An act that names an instance, or none, does to it what is said of one by itself. -/
private theorem alone_named (act : Act α) (concerns : act.names?.all (· = id) = true)
    (made : ((service.after act).made id).length = ((service.alone id).moved config act).made)
    (held : ((service.after act).alone id).held = ((service.alone id).moved config act).held)
    (answer : (service.operated act).2 = (service.alone id).answer act) :
    (service.after act).alone id = (service.alone id).after config id act := by
  rw [Alone.after, if_pos concerns]
  ext1
  · exact made
  · exact held
  · refine congrArg (service.answers id ++ ·) ?_
    rw [← answer]
    cases named : act.names? with
    | none =>
      cases act with
      | pump now => rfl
      | _ => cases named
    | some other =>
      rw [named] at concerns
      have same : other = id := of_decide_eq_true concerns
      rw [same, if_pos rfl]

private theorem alone_toggle (paired : service.Paired) (configured : service.Configured config)
    (job url : String) (now : Nat) :
    (service.after (.toggle job url now)).alone (.ofJob job) =
      (service.alone (.ofJob job)).after config (.ofJob job) (.toggle job url now) := by
  have isOpen := held_isSome paired (.ofJob job)
  apply alone_named _ (by simp [Act.names?])
  · rw [Alone.moved, isOpen]
    cases opened : service.coordinator.isOpen (.ofJob job) <;>
      simp [after, connects?, opened, Alone.closed, Alone.opened, alone]
  · cases opened : service.coordinator.isOpen (.ofJob job) with
    | true =>
      rw [toggle_open opened, Alone.moved, isOpen, opened]
      exact held_close service (.ofJob job) now
    | false =>
      rw [toggle_closed opened, Alone.moved, isOpen, opened, ← configured.tunables]
      exact held_openViewer service job url now
  · rw [Alone.answer, isOpen]
    cases opened : service.coordinator.isOpen (.ofJob job) <;>
      simp [operated, Coordinator.toggle, opened, Coordinator.openViewer]

/-- What an instance is by itself after an act follows from what it was before. -/
theorem alone_after (paired : service.Paired) (configured : service.Configured config)
    (act : Act α) (id : InstanceId) :
    (service.after act).alone id = (service.alone id).after config id act := by
  by_cases concerns : act.names?.all (· = id) = true
  · cases act with
    | close name now =>
      obtain rfl : name = id := of_decide_eq_true concerns
      apply alone_named _ concerns
      · simp [after, connects?, Alone.moved, Alone.closed, alone]
      · exact held_close service name now
      · exact congrArg (some ∘ Answer.closed) (closed_viewer paired name now)
    | openViewer job url now =>
      obtain rfl : InstanceId.ofJob job = id := of_decide_eq_true concerns
      apply alone_named _ concerns
      · simp [after, connects?, Alone.moved, Alone.opened, alone]
      · rw [← configured.tunables]
        exact held_openViewer service job url now
      · rfl
    | toggle job url now =>
      obtain rfl : InstanceId.ofJob job = id := of_decide_eq_true concerns
      exact alone_toggle paired configured job url now
    | pump now =>
      apply alone_named _ concerns
      · simp [after, connects?, Alone.moved, Alone.changed, alone]
      · rw [held_pump paired, configured.settings]
        rfl
      · rfl
    | user name action =>
      obtain rfl : name = id := of_decide_eq_true concerns
      apply alone_named _ concerns
      · simp [after, connects?, Alone.moved, Alone.changed, alone]
      · exact held_user paired name action
      · exact congrArg (some ∘ Answer.replied) (reply_user paired name action)
    | task name turn step =>
      obtain rfl : name = id := of_decide_eq_true concerns
      apply alone_named _ concerns
      · simp only [Alone.moved]
        split <;> simp [after, connects?, Alone.changed, alone]
      · rw [held_task paired, configured.settings, Alone.moved]
        split <;> rfl
      · rfl
  · cases named : act.names? with
    | none => simp [named] at concerns
    | some other =>
      have differs : other ≠ id := by simpa [named] using concerns
      rw [alone_aside paired act named differs, Alone.after_aside named differs]

/-- In every run an instance goes the way it would go by itself. -/
theorem alone_run (paired : service.Paired) (configured : service.Configured config)
    (acts : List (Act α)) (id : InstanceId) :
    (service.run acts).alone id = acts.foldl (Alone.after config id) (service.alone id) := by
  induction acts generalizing service with
  | nil => rfl
  | cons act acts ih =>
    rw [List.foldl_cons, ← alone_after paired configured]
    exact ih (paired_after paired act) (configured_after configured act)

end Service
end LiveLog
