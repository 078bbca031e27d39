import LiveLog.Host.Basic
import LiveLog.Proofs.Coordinator.Alone

/-! The open viewers of a coordinator after each of its operations: an action changes the viewer it names,
an opening puts a new one in place, a pump hands every viewer what its channel holds and then lets it
settle. What every one of these keeps holds of all open viewers. -/
namespace LiveLog.Coordinator

variable {α : Type}

/-- Something holds of every open viewer. -/
def AllOpen (holds : Viewer α → Prop) (coordinator : Coordinator α) : Prop :=
  ∀ id viewer, coordinator.viewer? id = some viewer → holds viewer

theorem new_allOpen (holds : Viewer α → Prop) (config : Config α) :
    (new config).AllOpen holds := by
  intro id viewer found
  cases found

variable [Scalar α]

/-! ### One viewer -/

theorem viewer?_act (coordinator : Coordinator α) (id other : InstanceId) (action : Viewer.Action α) :
    (coordinator.act id action).1.viewer? other =
      if other = id then (coordinator.viewer? id).map (·.acted action)
      else coordinator.viewer? other := by
  cases found : coordinator.instance? id with
  | none =>
    have missing := viewer?_of_missing found
    rw [act_refused missing]
    split
    · rename_i same
      rw [same, missing]
      rfl
    · rfl
  | some entry =>
    rw [act_open (viewer?_of_open found), viewer?_of_open found, viewer?, instance?_setViewer, found]
    split <;> rfl

theorem viewer?_close (coordinator : Coordinator α) (id other : InstanceId) (now : Nat) :
    (coordinator.close id now).1.viewer? other =
      if other = id then none else coordinator.viewer? other := by
  rw [viewer?, instance?_close]
  split <;> rfl

theorem viewer?_openViewer (coordinator : Coordinator α) (job url : String) (now : Nat)
    (other : InstanceId) :
    (coordinator.openViewer job url now).1.viewer? other =
      if other = .ofJob job then
        some (.new job coordinator.config.layout coordinator.config.showDebug)
      else coordinator.viewer? other := by
  rw [viewer?, instance?_openViewer]
  split <;> rfl

private theorem pumpAll_lookup (now : Nat) (connections : Connections)
    (entries : List (InstanceId × Instance α)) (id : InstanceId) :
    ∃ sent, ((pumpAll now connections entries).2.1.lookup id).map Instance.viewer =
      (entries.lookup id).map fun entry => (entry.viewer.received sent).settle now := by
  induction entries generalizing connections with
  | nil => exact ⟨[], rfl⟩
  | cons first rest ih =>
    obtain ⟨name, entry⟩ := first
    simp only [pumpAll, List.lookup_cons]
    by_cases same : id = name
    · refine ⟨(connections.take entry.channel).2, ?_⟩
      simp only [same, BEq.rfl]
      rfl
    · simp only [beq_false_of_ne same]
      exact ih _

/-- A pump hands a viewer what its channel holds, and lets it settle. -/
theorem viewer?_pump (coordinator : Coordinator α) (now : Nat) (id : InstanceId) :
    ∃ sent, (coordinator.pump now).1.viewer? id =
      (coordinator.viewer? id).map fun viewer => (viewer.received sent).settle now := by
  obtain ⟨sent, pumped⟩ := pumpAll_lookup now coordinator.connections coordinator.instances id
  refine ⟨sent, pumped.trans ?_⟩
  rw [viewer?, Option.map_map]
  rfl

/-- To toggle a job is to close it or to open it. -/
theorem toggle_cases (coordinator : Coordinator α) (job url : String) (now : Nat) :
    coordinator.isOpen (.ofJob job) = true ∧
        coordinator.toggle job url now = ((coordinator.close (.ofJob job) now).1, none) ∨
      coordinator.isOpen (.ofJob job) = false ∧
        coordinator.toggle job url now =
          ((coordinator.openViewer job url now).1, some (.ofJob job)) := by
  cases opened : coordinator.isOpen (.ofJob job) with
  | true => exact .inl ⟨rfl, if_pos opened⟩
  | false => exact .inr ⟨rfl, if_neg (by simp [opened])⟩

/-- The coordinator after jobs were opened in their order. -/
def opened (coordinator : Coordinator α) (jobs : List JobSpec) (now : Nat) : Coordinator α :=
  jobs.foldl (fun coordinator job => (coordinator.openViewer job.job job.url now).1) coordinator

/-! ### The tunables -/

@[simp] theorem config_act (coordinator : Coordinator α) (id : InstanceId)
    (action : Viewer.Action α) : (coordinator.act id action).1.config = coordinator.config := by
  cases found : coordinator.viewer? id with
  | none => rw [act_refused found]
  | some viewer => rw [act_open found, setViewer]

@[simp] theorem config_openViewer (coordinator : Coordinator α) (job url : String) (now : Nat) :
    (coordinator.openViewer job url now).1.config = coordinator.config :=
  coordinator.config_close (.ofJob job) now

theorem config_opened (coordinator : Coordinator α) (jobs : List JobSpec) (now : Nat) :
    (coordinator.opened jobs now).config = coordinator.config := by
  induction jobs generalizing coordinator with
  | nil => rfl
  | cons job jobs ih => exact (ih _).trans (coordinator.config_openViewer job.job job.url now)

/-! ### All open viewers -/

variable {coordinator : Coordinator α} {holds : Viewer α → Prop}

theorem AllOpen.act (all : coordinator.AllOpen holds) (id : InstanceId) (action : Viewer.Action α)
    (keeps : ∀ viewer, coordinator.viewer? id = some viewer → holds viewer →
      holds (viewer.acted action)) :
    (coordinator.act id action).1.AllOpen holds := by
  intro other viewer found
  rw [viewer?_act] at found
  split at found
  · obtain ⟨before, open_, rfl⟩ := Option.map_eq_some_iff.mp found
    exact keeps before open_ (all id before open_)
  · exact all other viewer found

theorem AllOpen.close (all : coordinator.AllOpen holds) (id : InstanceId) (now : Nat) :
    (coordinator.close id now).1.AllOpen holds := by
  intro other viewer found
  rw [viewer?_close] at found
  split at found
  · cases found
  · exact all other viewer found

theorem AllOpen.openViewer (all : coordinator.AllOpen holds) (job url : String) (now : Nat)
    (fresh : ∀ job, holds (.new job coordinator.config.layout coordinator.config.showDebug)) :
    (coordinator.openViewer job url now).1.AllOpen holds := by
  intro other viewer found
  rw [viewer?_openViewer] at found
  split at found
  · cases found
    exact fresh job
  · exact all other viewer found

theorem AllOpen.opened (all : coordinator.AllOpen holds) (jobs : List JobSpec) (now : Nat)
    (fresh : ∀ job, holds (.new job coordinator.config.layout coordinator.config.showDebug)) :
    (coordinator.opened jobs now).AllOpen holds := by
  induction jobs generalizing coordinator with
  | nil => exact all
  | cons job jobs ih =>
    refine ih (all.openViewer job.job job.url now fresh) ?_
    rwa [config_openViewer]

/-- What every event keeps holds after all events that were sent. -/
theorem received_keeps (holds : Viewer α → Prop) {viewer : Viewer α}
    (applies : ∀ viewer event, holds viewer → holds (viewer.apply event)) (held : holds viewer)
    (sent : List Sent) : holds (viewer.received sent) := by
  induction sent generalizing viewer with
  | nil => exact held
  | cons item sent ih => exact ih (applies viewer item.event held)

theorem AllOpen.pump (all : coordinator.AllOpen holds) (now : Nat)
    (applies : ∀ viewer event, holds viewer → holds (viewer.apply event))
    (settles : ∀ viewer, holds viewer → holds (viewer.settle now)) :
    (coordinator.pump now).1.AllOpen holds := by
  intro id viewer found
  obtain ⟨sent, pumped⟩ := coordinator.viewer?_pump now id
  rw [pumped] at found
  obtain ⟨before, open_, rfl⟩ := Option.map_eq_some_iff.mp found
  exact settles _ (received_keeps holds applies (all id before open_) sent)

end LiveLog.Coordinator
