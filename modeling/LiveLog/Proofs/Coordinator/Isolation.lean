import LiveLog.Proofs.Coordinator.Alone

/-! Instances are isolated from each other. An instance by itself passes over every act that names
another one. Two runs that differ only in such acts therefore show the same viewer and the same
connection, and have given the same answers. What names an instance that is not open reaches none at
all. -/
namespace LiveLog

variable {α : Type}

/-- There is nothing to see of an instance, and the operations that name it say so and change
nothing. -/
structure Coordinator.Refuses [Scalar α] (coordinator : Coordinator α) (id : InstanceId) : Prop where
  unseen : coordinator.viewer? id = none
  unconnected : coordinator.connection? id = none
  closing : ∀ now, coordinator.close id now = (coordinator, none)
  acting : ∀ action, coordinator.act id action = (coordinator, action.refusal)

theorem Coordinator.missing_of_closed {coordinator : Coordinator α} {id : InstanceId}
    (closed : coordinator.isOpen id = false) : coordinator.instance? id = none :=
  Option.not_isSome_iff_eq_none.mp (Bool.eq_false_iff.mp closed)

namespace Service

/-- Two services show the same of an instance, and gave the same answers to what named it. -/
structure SameFor (id : InstanceId) (first second : Service α) : Prop where
  viewer : first.coordinator.viewer? id = second.coordinator.viewer? id
  connection : first.coordinator.connection? id = second.coordinator.connection? id
  answers : first.answers id = second.answers id

variable {service : Service α} {id other : InstanceId}

/-- The viewer of an instance is part of what it is by itself. -/
theorem viewer?_alone (paired : service.Paired) (id : InstanceId) :
    service.coordinator.viewer? id = (service.alone id).held.map (·.1) := by
  rcases held_cases paired id with ⟨missing, held⟩ | ⟨entry, watched, found, -, held⟩
  · rw [Coordinator.viewer?_of_missing missing, held]
    rfl
  · rw [Coordinator.viewer?_of_open found, held]
    rfl

/-- So is its connection, seen from outside. -/
theorem connection?_alone (paired : service.Paired) (id : InstanceId) :
    service.coordinator.connection? id = (service.alone id).held.map (·.2.connection.snapshot) := by
  have used := paired.number? id
  rw [Coordinator.connection?, Connections.snapshot?, used]
  rcases held_cases paired id with ⟨missing, held⟩ | ⟨entry, watched, found, serves, held⟩
  · rw [missing, held]
    rfl
  · rw [found, held]
    exact congrArg (· >>= fun connection => some connection.snapshot)
      (Traffic.watched?_connection serves.present)

/-- Where an instance by itself is the same in two services, so is what they show of it. -/
theorem same_of_alone {first second : Service α} (paired : first.Paired) (pairedOther : second.Paired)
    (same : first.alone id = second.alone id) : SameFor id first second where
  viewer := by rw [viewer?_alone paired, viewer?_alone pairedOther, same]
  connection := by rw [connection?_alone paired, connection?_alone pairedOther, same]
  answers := congrArg Alone.answers same

variable [Scalar α]

/-- The operations on an instance that is not open change nothing. -/
theorem refuses_closed (paired : service.Paired) (closed : service.coordinator.isOpen id = false) :
    service.coordinator.Refuses id := by
  have missing := Coordinator.missing_of_closed closed
  have unseen := Coordinator.viewer?_of_missing missing
  refine ⟨unseen, ?unconnected, ?closing, Coordinator.act_refused unseen⟩
  case unconnected => rw [connection?_alone paired, alone_closed missing]; rfl
  case closing => intro now; simp only [Coordinator.close, missing]

/-- Acts that name another instance may be left out of a run of one by itself. -/
theorem Alone.run_without (differs : other ≠ id) (config : Config α) (acts : List (Act α))
    (alone : Alone α) :
    (acts.filter (·.names? ≠ some other)).foldl (Alone.after config id) alone =
      acts.foldl (Alone.after config id) alone := by
  induction acts generalizing alone with
  | nil => rfl
  | cons act acts ih =>
    by_cases named : act.names? = some other
    · rw [List.filter_cons_of_neg (by simpa using named), List.foldl_cons,
        Alone.after_aside named differs]
      exact ih alone
    · rw [List.filter_cons_of_pos (by simpa using named)]
      exact ih (alone.after config id act)

/-- Whatever happens to other instances, what an instance is by itself is the same. -/
theorem alone_run_without (config : Config α) (acts : List (Act α)) (differs : other ≠ id) :
    ((start config).run acts).alone id =
      ((start config).run (acts.filter (·.names? ≠ some other))).alone id := by
  rw [alone_run (start_paired config) (start_configured config),
    alone_run (start_paired config) (start_configured config), Alone.run_without differs]

/-- Instances are isolated from each other. A run without the acts that name one job shows the same of
any other job, and gave the same answers to what named that. In every state the operations that name an
instance which is not open are refused. -/
theorem instances_are_isolated (config : Config α) (acts : List (Act α)) (job other : String)
    (differ : other ≠ job) :
    let whole := (start config).run acts
    let apart := (start config).run (acts.filter (·.names? ≠ some (.ofJob other)))
    SameFor (.ofJob job) whole apart ∧
      ∀ id, whole.coordinator.isOpen id = false → whole.coordinator.Refuses id := by
  intro whole apart
  -- Channel numbers differ between the two runs, so they are compared instance by instance.
  have paired : whole.Paired := paired_run (start_paired config) acts
  have pairedApart : apart.Paired := paired_run (start_paired config) _
  have same : whole.alone (.ofJob job) = apart.alone (.ofJob job) :=
    alone_run_without config acts fun found => differ (InstanceId.ofJob_injective found)
  exact ⟨same_of_alone paired pairedApart same, fun id => refuses_closed paired⟩

/-- One job is open while another is opened, opened anew and closed, and both streams bring a record. -/
theorem open_beside_another_job :
    let acts : List (Act Rat) :=
      [.openViewer "build" "b" 0, .toggle "tests" "t" 0,
        .task (.ofJob "build") 0 (.proceed 0), .task (.ofJob "tests") 0 (.proceed 0),
        .task (.ofJob "build") 0 (.receive .accepted), .task (.ofJob "tests") 0 (.receive .accepted),
        .task (.ofJob "build") 0 (.proceed 1), .task (.ofJob "build") 0 (.proceed 1),
        .task (.ofJob "build") 0 (.receive (.payload "\x7b\x7d")), .pump 2,
        .openViewer "tests" "t" 3, .task (.ofJob "tests") 0 (.receive (.payload "\x7b\x7d")),
        .task (.ofJob "build") 0 (.proceed 4), .user (.ofJob "tests") .toggleFollowTail,
        .close (.ofJob "tests") 5, .user (.ofJob "build") .toggleFullscreen, .pump 6]
    let whole := (start .standard).run acts
    let apart := (start .standard).run (acts.filter (·.names? ≠ some (.ofJob "tests")))
    "tests" ≠ "build" ∧ whole.coordinator.isOpen (.ofJob "build") = true ∧
      whole.made (.ofJob "tests") = [1, 2] ∧ SameFor (.ofJob "build") whole apart ∧
      ∀ id, whole.coordinator.isOpen id = false → whole.coordinator.Refuses id :=
  ⟨by decide, by decide +kernel, by decide +kernel,
    instances_are_isolated .standard _ "build" "tests" (by decide)⟩

end Service
end LiveLog
