import LiveLog.Rehearsal.Settlement
import LiveLog.Proofs.Connection.Waiting

/-! A settlement is virtual time at a standstill. Whatever a connection does in its turn it does in steps
that its task takes at that time, and a server only chooses which signals it gets; so all that holds of
timelines holds of connections that play against a script. -/
namespace LiveLog.Rehearsal

open Timeline (Happening)
open LiveLog.Connection (Reaches takes_proceed takes_receive takes_wake takes_stop)

variable {settings : StreamSettings} {now number : Nat} {server : Server} {connection : Connection}

/-! ### One turn -/

private theorem proceeds (opened : connection.closed = false) :
    Reaches settings now connection (connection.proceed settings now) :=
  .single ⟨.proceed now, takes_proceed.mpr ⟨opened, rfl⟩, rfl⟩

private theorem receives (opened : connection.closed = false) (signal : Signal) :
    Reaches settings now connection (connection.receive signal) :=
  .single ⟨.receive signal, takes_receive.mpr opened, rfl⟩

private theorem wakes (opened : connection.closed = false)
    (reached : connection.due?.any (· ≤ now) = true) : Reaches settings now connection connection.wake :=
  .single ⟨.wake, takes_wake.mpr ⟨opened, reached⟩, rfl⟩

/-- A step at a standing clock is made of steps of the task. -/
theorem step_reaches {state : Server × Connection} (opened : connection.closed = false)
    (stepped : step? settings now number server connection = some state) :
    Reaches settings now connection state.2 := by
  have goesOn : Reaches settings now connection (connection.proceed settings now) := proceeds opened
  cases stage : connection.stage with
  | starting =>
    simp only [step?, stage] at stepped
    split at stepped
    · -- The answer comes at once, after the request.
      cases stepped
      exact goesOn.trans (receives (by rw [Connection.proceed_keeps_closed, opened]) _)
    · cases stepped
      exact goesOn
  | reading deadline =>
    simp only [step?, stage] at stepped
    split at stepped
    · cases stepped
      exact receives opened _
    · cases stepped
      exact receives opened _
    · split at stepped
      · cases stepped
        exact wakes opened ‹_›
      · cases stepped
  | resting moment =>
    simp only [step?, stage] at stepped
    split at stepped
    · rename_i reached
      cases stepped
      exact wakes opened (by simpa [Connection.due?, stage] using reached)
    · cases stepped
  | opening => simp [step?, stage] at stepped
  | stopped => simp [step?, stage] at stepped
  | _ =>
    simp only [step?, stage, Option.some.injEq] at stepped
    subst stepped
    exact goesOn

/-- So is everything a connection does until it waits or is interrupted. -/
theorem run_reaches (number fuel budget : Nat) (state : Server × Connection)
    (opened : state.2.closed = false) :
    Reaches settings now state.2 (run settings now number fuel budget state).2.1 := by
  induction fuel generalizing budget state with
  | zero => exact .refl
  | succ fuel ih =>
    obtain ⟨server, connection⟩ := state
    simp only [run]
    split
    · exact .refl
    · split
      · rename_i next stepped
        have first := step_reaches opened stepped
        exact first.trans (ih _ next (first.closed.trans opened))
      · exact .refl

/-! ### All connections -/

/-- The tasks of a timeline can bring its connections to these while the clock stands. -/
def Brings (timeline : Timeline) (connections : Connections) : Prop :=
  ∃ happenings : List Happening, (∀ happening ∈ happenings, happening.Unattended) ∧
    (timeline.run happenings).now = timeline.now ∧
    (timeline.run happenings).traffic.table = connections

variable {timeline : Timeline}

theorem brings_present (timeline : Timeline) : Brings timeline timeline.traffic.table :=
  ⟨[], by simp, rfl, rfl⟩

/-- Wherever one task can come from there, the timeline can bring it. -/
theorem brings_task {connections : Connections} {later : Connection}
    (brings : Brings timeline connections) (present : connections.all[number]? = some connection)
    (reaches : Reaches connections.settings timeline.now connection later) :
    Brings timeline (connections.modify number fun _ => later) := by
  obtain ⟨happenings, unattended, atOnce, rfl⟩ := brings
  rw [← atOnce] at reaches
  obtain ⟨more, unattendedToo, atOnceToo, moved⟩ := Timeline.one_reaches reaches present
  refine ⟨happenings ++ more, ?_, ?_, ?_⟩
  · exact fun happening member =>
      (List.mem_append.mp member).elim (unattended happening) (unattendedToo happening)
  · rw [Timeline.run_append, atOnceToo, atOnce]
  · rw [Timeline.run_append, moved]

/-- One connection gets its turn. -/
theorem brings_turn {settlement : Settlement} (brings : Brings timeline settlement.connections)
    (resumed : Bool) (number : Nat) :
    Brings timeline (settlement.turn timeline.now resumed number).connections := by
  simp only [Settlement.turn]
  cases present : settlement.connections.all[number]? with
  | none => exact brings
  | some connection =>
    cases closed : connection.closed with
    | true =>
      have stops : Reaches settlement.connections.settings timeline.now connection connection.stop :=
        .single ⟨.stop, takes_stop.mpr closed, rfl⟩
      simp only [closed, ↓reduceIte]
      rw [Connections.modify_present present]
      exact brings_task brings present stops
    | false =>
      have moved := brings_task brings present
        (run_reaches number turnSteps turnBudget (settlement.server, connection) closed)
      -- Who goes on when is the order's business, and leaves the connections as they are.
      simp only [closed, Bool.false_eq_true, ↓reduceIte]
      split
      · exact moved
      · split
        · exact moved
        · exact moved

/-- One connection after another gets its turn. -/
theorem brings_turns (resumed : Bool) (numbers : List Nat) {settlement : Settlement}
    (brings : Brings timeline settlement.connections) :
    Brings timeline
      (numbers.foldl (Settlement.turn timeline.now resumed) settlement).connections := by
  induction numbers generalizing settlement with
  | nil => exact brings
  | cons number numbers ih => exact ih (brings_turn brings resumed number)

/-- Those that were interrupted go on. -/
theorem brings_resume (fuel : Nat) {settlement : Settlement}
    (brings : Brings timeline settlement.connections) :
    Brings timeline (settlement.resume timeline.now fuel).connections := by
  induction fuel generalizing settlement with
  | zero => exact brings
  | succ fuel ih =>
    simp only [Settlement.resume]
    split
    · exact brings
    · exact ih (brings_turns true settlement.interrupted brings)

/-- Whatever a script makes of connections while the clock stands, and in whatever order they get their
turns, a timeline can make of them at that time. -/
theorem settlement_is_timely (timeline : Timeline) (server : Server) (order : List Nat) :
    Brings timeline
      (settleAll timeline.traffic.table timeline.now server order).connections :=
  brings_resume _ (brings_turns false _ (brings_present timeline))

end LiveLog.Rehearsal
