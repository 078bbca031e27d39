import Mathlib.Data.List.Nodup
import LiveLog.Proofs.Coordinator.Service

/-! Viewers and connections stay paired. The coordinator keeps its open instances, and the connections
keep a registry of their own; every operation changes both, and the registry stays the list of the
channels from which the open instances take their events. No two instances share a channel, because a
connection is made for one instance and its number is never given again. -/
namespace LiveLog

/-- Entries that are renamed and changed one by one are found under their new names. -/
theorem lookup_map {κ κ' ν ν' : Type} [DecidableEq κ] [DecidableEq κ'] {rename : κ → κ'}
    (injective : Function.Injective rename) (change : κ → ν → ν') (entries : List (κ × ν)) (key : κ) :
    (entries.map fun (name, value) => (rename name, change name value)).lookup (rename key) =
      (entries.lookup key).map (change key) := by
  induction entries with
  | nil => rfl
  | cons entry rest ih =>
    obtain ⟨name, value⟩ := entry
    rw [List.map_cons, List.lookup_cons, List.lookup_cons, ih]
    by_cases same : key = name
    · simp [same]
    · simp [beq_false_of_ne same, beq_false_of_ne fun found => same (injective found)]

/-- An entry is found under its key where no key comes twice. -/
theorem lookup_of_mem {κ ν : Type} [DecidableEq κ] {entries : List (κ × ν)} {key : κ} {value : ν}
    (once : (entries.map (·.1)).Nodup) (member : (key, value) ∈ entries) :
    entries.lookup key = some value := by
  obtain ⟨before, after, rfl⟩ := List.append_of_mem member
  rw [List.map_append, List.nodup_append] at once
  have absent : before.lookup key = none := by
    rw [List.lookup_eq_none_iff]
    intro entry earlier
    exact bne_iff_ne.mpr fun same =>
      once.2.2 entry.1 (List.mem_map_of_mem earlier) key (by simp) same.symm
  simp [List.lookup_append, absent]

/-- Instances are told apart by their text. -/
theorem InstanceId.text_injective : Function.Injective InstanceId.text := by
  rintro ⟨first⟩ ⟨second⟩ same
  exact congrArg InstanceId.mk same

/-- Different jobs have different instances. -/
theorem InstanceId.ofJob_injective : Function.Injective InstanceId.ofJob := by
  intro first second same
  exact (String.append_right_inj _).mp (congrArg InstanceId.text same)

namespace Coordinator

variable {α : Type}

/-- The open instances with the numbers of their channels. -/
def channels (coordinator : Coordinator α) : List (InstanceId × Nat) :=
  coordinator.instances.map fun (id, entry) => (id, entry.channel)

theorem lookup_channels (coordinator : Coordinator α) (id : InstanceId) :
    coordinator.channels.lookup id = (coordinator.instance? id).map Instance.channel :=
  lookup_map Function.injective_id (fun _ => Instance.channel) coordinator.instances id

theorem lookup_channels_of_open {coordinator : Coordinator α} {id : InstanceId} {entry : Instance α}
    (found : coordinator.instance? id = some entry) :
    coordinator.channels.lookup id = some entry.channel := by
  rw [lookup_channels, found]
  rfl

theorem channels_setViewer (coordinator : Coordinator α) (id : InstanceId) (viewer : Viewer α) :
    (coordinator.setViewer id viewer).channels = coordinator.channels := by
  simp only [channels, setViewer, List.map_map]
  refine List.map_congr_left fun entry _ => ?_
  simp only [Function.comp]
  split <;> rfl

variable [Scalar α]

/-- A closed instance has no channel. The others keep theirs. -/
theorem channels_close (coordinator : Coordinator α) (id : InstanceId) (now : Nat) :
    (coordinator.close id now).1.channels = coordinator.channels.filter (·.1 ≠ id) := by
  cases found : coordinator.instance? id with
  | none =>
    have absent : coordinator.channels.lookup id = none := by rw [lookup_channels, found]; rfl
    simp only [close, found]
    refine (List.filter_eq_self.mpr fun entry member => ?_).symm
    have other := List.lookup_eq_none_iff.mp absent entry member
    exact decide_eq_true fun same => by simp [same] at other
  | some entry =>
    simp only [close, found, channels, List.filter_map]
    rfl

/-- A viewer that is opened is the last one, on a channel of its own. -/
theorem channels_openViewer (coordinator : Coordinator α) (job url : String) (now : Nat) :
    (coordinator.openViewer job url now).1.channels =
      coordinator.channels.filter (·.1 ≠ .ofJob job) ++
        [(.ofJob job, (coordinator.close (.ofJob job) now).1.connections.all.size)] := by
  rw [← channels_close coordinator (.ofJob job) now]
  simp [openViewer, channels, Connections.connect]

theorem channels_pumpAll (now : Nat) (connections : Connections)
    (entries : List (InstanceId × Instance α)) :
    ((pumpAll now connections entries).2.1.map fun (id, entry) => (id, entry.channel)) =
      entries.map fun (id, entry) => (id, entry.channel) := by
  induction entries generalizing connections with
  | nil => rfl
  | cons entry entries ih => exact congrArg (_ :: ·) (ih _)

end Coordinator

namespace Service

/-- Channels of open instances go with a registry, the numbers of the connections made for each
instance, and the number of all connections. -/
structure Matched (channels : List (InstanceId × Nat)) (registry : List (String × Nat))
    (made : InstanceId → List Nat) (size : Nat) : Prop where
  registered : registry = channels.map fun (id, number) => (id.text, number)
  opened_once : (channels.map (·.1)).Nodup
  /-- The channel of an instance is the connection made for it last. -/
  latest : ∀ id number, channels.lookup id = some number → (made id).getLast? = some number
  ascending : ∀ id, (made id).Pairwise (· < ·)
  in_range : ∀ id, ∀ number ∈ made id, number < size
  /-- A connection is made for one instance. -/
  apart : ∀ id other, ∀ number ∈ made id, number ∈ made other → id = other

section Matched

variable {channels : List (InstanceId × Nat)} {registry : List (String × Nat)}
  {made : InstanceId → List Nat} {size : Nat}

/-- Both lists forget an instance. -/
theorem Matched.without (matched : Matched channels registry made size) (id : InstanceId) :
    Matched (channels.filter (·.1 ≠ id)) (registry.filter (·.1 ≠ id.text)) made size where
  registered := by
    rw [matched.registered, List.filter_map]
    congr 1
    refine List.filter_congr fun entry _ => ?_
    simp [InstanceId.text_injective.eq_iff]
  opened_once := matched.opened_once.sublist (List.filter_sublist.map _)
  latest other number found := by
    rw [lookup_without] at found
    split at found
    · cases found
    · exact matched.latest other number found
  ascending := matched.ascending
  in_range := matched.in_range
  apart := matched.apart

/-- No two instances share a channel. -/
theorem Matched.channel_injective (matched : Matched channels registry made size)
    {id other : InstanceId} {number : Nat} (first : channels.lookup id = some number)
    (second : channels.lookup other = some number) : id = other :=
  matched.apart id other number (List.mem_of_getLast? (matched.latest id number first))
    (List.mem_of_getLast? (matched.latest other number second))

theorem Matched.numbers_once (matched : Matched channels registry made size) :
    (channels.map (·.2)).Nodup := by
  have once := matched.opened_once
  rw [List.Nodup, List.pairwise_map] at once ⊢
  refine once.imp_of_mem fun {first second} one two differ same => differ ?_
  exact matched.channel_injective (lookup_of_mem matched.opened_once one)
    (same ▸ lookup_of_mem matched.opened_once two)

private theorem mem_noted {id other : InstanceId} {number : Nat} :
    number ∈ made other ++ (if some id = some other then [size] else []) ↔
      number ∈ made other ∨ other = id ∧ number = size := by
  by_cases same : id = other
  · simp [same]
  · simp [same, Ne.symm same]

/-- Both lists get a new connection, for an instance that is not open. -/
theorem Matched.with_new (matched : Matched channels registry made size) (id : InstanceId)
    (absent : channels.lookup id = none) :
    Matched (channels ++ [(id, size)]) (registry ++ [(id.text, size)])
      (fun other => made other ++ if some id = some other then [size] else []) (size + 1) where
  registered := by simp [matched.registered]
  opened_once := by
    rw [List.map_append, List.nodup_append]
    refine ⟨matched.opened_once, by simp, ?_⟩
    intro name member other new same
    obtain ⟨entry, found, rfl⟩ := List.mem_map.mp member
    obtain rfl : other = id := by simpa using new
    simpa [same] using List.lookup_eq_none_iff.mp absent entry found
  latest other number found := by
    rw [List.lookup_append] at found
    by_cases same : other = id
    · subst same
      obtain rfl : size = number := by simpa [absent] using found
      simp
    · have before : channels.lookup other = some number := by
        simpa [List.lookup_cons, beq_false_of_ne same] using found
      simpa [Ne.symm same] using matched.latest other number before
  ascending other := by
    split
    · refine List.pairwise_append.mpr ⟨matched.ascending other, List.pairwise_singleton _ _, ?_⟩
      intro number member new isNew
      rw [List.mem_singleton.mp isNew]
      exact matched.in_range other number member
    · simpa using matched.ascending other
  in_range other number member := by
    rcases mem_noted.mp member with older | ⟨-, rfl⟩
    · exact Nat.lt_succ_of_lt (matched.in_range other number older)
    · exact Nat.lt_succ_self number
  apart first second number one two := by
    rcases mem_noted.mp one with older | ⟨rfl, rfl⟩ <;> rcases mem_noted.mp two with old | ⟨rfl, new⟩
    · exact matched.apart first second number older old
    · exact absurd (matched.in_range first number older) (new ▸ Nat.lt_irrefl _)
    · exact absurd (matched.in_range second number old) (Nat.lt_irrefl _)
    · rfl

end Matched

variable {α : Type} {service : Service α}

/-- Viewers and connections are paired, in traffic where every connection goes its own way. -/
structure Paired (service : Service α) : Prop where
  orderly : service.traffic.Orderly
  matched : Matched service.coordinator.channels service.coordinator.connections.registry service.made
    service.coordinator.connections.all.size

theorem start_paired (config : Config α) : (start config).Paired where
  orderly := Traffic.start_orderly _
  matched :=
    { registered := rfl
      opened_once := List.nodup_nil
      latest := nofun
      ascending := fun _ => List.Pairwise.nil
      in_range := nofun
      apart := nofun }

/-- The connection registered for an instance is the channel of its viewer. -/
theorem Paired.number? (paired : service.Paired) (id : InstanceId) :
    service.coordinator.connections.number? id.text =
      (service.coordinator.instance? id).map Instance.channel := by
  rw [Connections.number?, paired.matched.registered, ← Coordinator.lookup_channels]
  exact (lookup_map InstanceId.text_injective (fun _ number => number) _ id).trans Option.map_id'

/-- The channel of an open viewer is the connection made last for its instance. -/
theorem Paired.latest (paired : service.Paired) {id : InstanceId} {entry : Instance α}
    (found : service.coordinator.instance? id = some entry) :
    (service.made id).getLast? = some entry.channel :=
  paired.matched.latest id entry.channel (Coordinator.lookup_channels_of_open found)

theorem Paired.opened_once (paired : service.Paired) :
    (service.coordinator.instances.map (·.1)).Nodup := by
  have once := paired.matched.opened_once
  rwa [Coordinator.channels, List.map_map] at once

/-- Every instance is registered once. -/
theorem Paired.registered_once (paired : service.Paired) :
    (service.coordinator.connections.registry.map (·.1)).Nodup := by
  have once := List.Nodup.map InstanceId.text_injective paired.matched.opened_once
  rw [paired.matched.registered]
  rwa [List.map_map] at once ⊢

/-- A connection that is not in use is closed and has nothing left to send. -/
theorem Paired.retired (paired : service.Paired) {number : Nat} {connection : Connection}
    (present : service.coordinator.connections.all[number]? = some connection)
    (unused : ∀ id : InstanceId, service.coordinator.connections.number? id.text ≠ some number) :
    connection.closed = true ∧ connection.pending = [] := by
  obtain ⟨text, url, moves, serves⟩ :=
    paired.orderly.served number (Array.getElem?_eq_some_iff.mp present).1
  have watched : service.traffic.watched? number =
      some ⟨connection, service.traffic.past number⟩ :=
    congrArg (Option.map (Watched.mk · (service.traffic.past number))) present
  have ended := serves.out_of_use (unused ⟨text⟩)
  rwa [← Option.some.inj (watched.symm.trans serves.present)] at ended

/-! ### Every act keeps the pairing -/

/-- Closing an instance makes the registry forget it. -/
theorem registry_closing (paired : service.Paired) (id : InstanceId) (now : Nat) :
    (service.traffic.run (service.closing id now)).table.registry =
      service.coordinator.connections.registry.filter (·.1 ≠ id.text) := by
  have forgotten := service.coordinator.connections.registry_disconnect id.text now
  cases found : service.coordinator.instance? id with
  | none =>
    -- Without a viewer nothing is registered, and to forget it changes nothing.
    have unused : service.coordinator.connections.number? id.text = none := by
      rw [paired.number?, found]
      rfl
    simp only [Connections.disconnect, unused] at forgotten
    simp only [closing, found]
    exact forgotten
  | some entry =>
    simp only [closing, found]
    exact forgotten

theorem size_closing (service : Service α) (id : InstanceId) (now : Nat) :
    (service.traffic.run (service.closing id now)).table.all.size =
      service.coordinator.connections.all.size := by
  cases found : service.coordinator.instance? id with
  | none => simp [closing, found, Traffic.run, traffic]
  | some entry =>
    simp [closing, found, Traffic.run, traffic, Traffic.after, Connections.take, Connections.modify]

/-- To open a viewer is to close the one that is open for the job, and to connect. -/
theorem run_openViewer (service : Service α) (job url : String) (now : Nat) :
    service.traffic.run (service.asked (.openViewer job url now)) =
      (service.traffic.run (service.closing (.ofJob job) now)).after
        (.connect (InstanceId.ofJob job).text url now) :=
  List.foldl_append

variable [Scalar α]

theorem table_after (service : Service α) (act : Act α) :
    (service.after act).coordinator.connections =
      (service.traffic.run (service.asked act)).table :=
  congrArg Traffic.table (service.traffic_after act)

/-- An act that neither opens nor closes keeps channels, registry and numbers as they are. -/
private theorem paired_aside (paired : service.Paired) (act : Act α)
    (unconnected : service.connects? act = none)
    (channels : (service.after act).coordinator.channels = service.coordinator.channels)
    (registry : (service.after act).coordinator.connections.registry =
      service.coordinator.connections.registry)
    (size : (service.after act).coordinator.connections.all.size =
      service.coordinator.connections.all.size) : (service.after act).Paired where
  orderly := by
    rw [traffic_after]
    exact Traffic.orderly_run paired.orderly _
  matched := by
    have made : (service.after act).made = service.made := by
      funext id
      simp [after, unconnected]
    rw [channels, registry, size, made]
    exact paired.matched

theorem paired_close (paired : service.Paired) (id : InstanceId) (now : Nat) :
    (service.after (.close id now)).Paired where
  orderly := by
    rw [traffic_after]
    exact Traffic.orderly_run paired.orderly _
  matched := by
    have made : (service.after (.close id now)).made = service.made := by
      funext other
      simp [after, connects?]
    rw [table_after, made]
    simp only [after, operated, asked]
    rw [registry_closing paired, size_closing, Coordinator.channels_close]
    exact paired.matched.without id

theorem paired_openViewer (paired : service.Paired) (job url : String) (now : Nat) :
    (service.after (.openViewer job url now)).Paired where
  orderly := by
    rw [traffic_after]
    exact Traffic.orderly_run paired.orderly _
  matched := by
    have absent : (service.coordinator.channels.filter (·.1 ≠ .ofJob job)).lookup (.ofJob job) =
        none := by
      rw [lookup_without, if_pos rfl]
    have channels : (service.after (.openViewer job url now)).coordinator.channels =
        service.coordinator.channels.filter (·.1 ≠ .ofJob job) ++
          [(.ofJob job, service.coordinator.connections.all.size)] := by
      have opened := service.coordinator.channels_openViewer job url now
      rw [close_connections, size_closing] at opened
      exact opened
    rw [channels, table_after, run_openViewer, Traffic.registry_connect, Traffic.size_connect,
      registry_closing paired, size_closing, List.filter_filter]
    simp only [Bool.and_self]
    exact (paired.matched.without (.ofJob job)).with_new (.ofJob job) absent

/-- To toggle a viewer that is open is to close it, but for the answer. -/
theorem toggle_open (opened : service.coordinator.isOpen (.ofJob job) = true) (url : String)
    (now : Nat) :
    service.after (.toggle job url now) =
      { service.after (.close (.ofJob job) now) with
        answers := (service.after (.toggle job url now)).answers } := by
  simp [after, operated, Coordinator.toggle, asked, connects?, opened]

/-- To toggle one that is not open is to open it, but for the answer. -/
theorem toggle_closed (closed : service.coordinator.isOpen (.ofJob job) = false) (url : String)
    (now : Nat) :
    service.after (.toggle job url now) =
      { service.after (.openViewer job url now) with
        answers := (service.after (.toggle job url now)).answers } := by
  simp [after, operated, Coordinator.toggle, asked, connects?, closed]

/-- Taking events and steps of tasks leave registry and numbers as they are. -/
private theorem run_moves_registry (traffic : Traffic) (acts : List Traffic.Act)
    (moves : ∀ act ∈ acts, (∃ number, act = .take number) ∨ ∃ number step, act = .task number step) :
    (traffic.run acts).table.registry = traffic.table.registry ∧
      (traffic.run acts).table.all.size = traffic.table.all.size := by
  induction acts generalizing traffic with
  | nil => exact ⟨rfl, rfl⟩
  | cons act acts ih =>
    obtain ⟨registry, size⟩ := ih (traffic.after act) fun act member => moves act (.tail _ member)
    rcases moves act (.head _) with ⟨number, rfl⟩ | ⟨number, step, rfl⟩
    · exact ⟨registry, size.trans Array.size_modify⟩
    · exact ⟨registry, size.trans Array.size_modify⟩

theorem paired_after (paired : service.Paired) (act : Act α) : (service.after act).Paired := by
  cases act with
  | close id now => exact paired_close paired id now
  | openViewer job url now => exact paired_openViewer paired job url now
  | toggle job url now =>
    cases opened : service.coordinator.isOpen (.ofJob job) with
    | true =>
      rw [toggle_open opened]
      obtain ⟨orderly, matched⟩ := paired_close paired (.ofJob job) now
      exact ⟨orderly, matched⟩
    | false =>
      rw [toggle_closed opened]
      obtain ⟨orderly, matched⟩ := paired_openViewer paired job url now
      exact ⟨orderly, matched⟩
  | pump now =>
    have moves := run_moves_registry service.traffic (service.asked (.pump now)) fun act member => by
      obtain ⟨entry, -, rfl⟩ := List.mem_map.mp member
      exact .inl ⟨_, rfl⟩
    rw [← table_after] at moves
    exact paired_aside paired _ rfl (Coordinator.channels_pumpAll now _ _) moves.1 moves.2
  | user id action =>
    have same : (service.after (.user id action)).coordinator.connections =
        service.coordinator.connections := table_after service (.user id action)
    refine paired_aside paired _ rfl ?_ (by rw [same]) (by rw [same])
    cases found : service.coordinator.viewer? id with
    | none => simp [after, operated, Coordinator.act_refused found]
    | some viewer =>
      simp [after, operated, Coordinator.act_open found, Coordinator.channels_setViewer]
  | task id turn step =>
    have moves := run_moves_registry service.traffic (service.asked (.task id turn step))
      fun act member => by
        obtain ⟨number, -, rfl⟩ := List.mem_map.mp member
        exact .inr ⟨_, _, rfl⟩
    rw [← table_after] at moves
    exact paired_aside paired _ rfl rfl moves.1 moves.2

/-- Viewers and connections are paired after every run. -/
theorem paired_run (paired : service.Paired) (acts : List (Act α)) : (service.run acts).Paired := by
  induction acts generalizing service with
  | nil => exact paired
  | cons act acts ih => exact ih (paired_after paired act)

end Service
end LiveLog
