import LiveLog.Proofs.Connection.Run

/-! No record is lost, repeated or moved by a connection. The records of the payloads it has taken in
are those it has sent in batches, followed by those it still gathers. Four places move records: storing
a payload, the timely delivery, the delivery when the stream is over, and the one at the close. Each
keeps this balance, whatever comes between them. -/
namespace LiveLog

/-- The records of all batches among events sent, in order. -/
def batched (sent : List Sent) : List Json :=
  sent.flatMap fun item => match item.event with
    | .batch raw => raw
    | _ => []

@[simp] theorem batched_append (first second : List Sent) :
    batched (first ++ second) = batched first ++ batched second :=
  List.flatMap_append

namespace Connection

variable {connection : Connection} (settings : StreamSettings) {now : Nat}

/-- The records a connection holds: those in its channel, and behind them those it gathers. -/
def held (connection : Connection) : List Json :=
  batched connection.outbox ++ connection.pending

/-- The records a connection is about to store, which it does only while it is open. -/
def toStore (connection : Connection) : List Json :=
  match connection.stage with
  | .storing items _ => if connection.closed then [] else items
  | _ => []

/-- A delivery moves records from those gathered to the channel. -/
theorem flush_held (connection : Connection) (now : Nat) :
    (connection.flush now).held = connection.held := by
  simp only [flush]
  split
  · rfl
  · simp [held, batched]

/-- Telling of the stream or of a failure moves no record. -/
theorem emit_held (plain : ∀ raw, event ≠ StreamEvent.batch raw) (stage : Stage) :
    (connection.emit event now stage).held = connection.held := by
  simp only [emit]
  split
  · rfl
  · cases event with
    | batch raw => exact absurd rfl (plain raw)
    | opened => simp [held, batched]
    | error message retryCount => simp [held, batched]

/-- A step that waits for nothing adds the records to be stored, and no others. -/
theorem proceed_held :
    (connection.proceed settings now).held = connection.held ++ connection.toStore := by
  cases stage : connection.stage with
  | storing items deadline =>
    simp only [proceed, toStore, stage]
    split <;> simp [held]
  | announcing =>
    simpa [proceed, toStore, stage] using emit_held (by simp) _
  | reporting cause attempt =>
    simpa [proceed, toStore, stage] using emit_held (by simp) _
  | flushing =>
    simp only [proceed, toStore, stage, List.append_nil]
    exact connection.flush_held now
  | ending cause =>
    simp only [proceed, toStore, stage, List.append_nil]
    exact connection.flush_held now
  | _ => simp [proceed, toStore, stage, held]

/-- A step that waits for nothing leaves no records to be stored. -/
theorem proceed_stores (items : List Json) (deadline : Option Nat) :
    (connection.proceed settings now).stage ≠ .storing items deadline := by
  cases stage : connection.stage with
  | storing items deadline =>
    simp only [proceed, stage]
    split <;> simp
  | announcing =>
    simp only [proceed, stage, emit]
    split <;> simp
  | reporting cause attempt =>
    simp only [proceed, stage, emit]
    split <;> simp
  | _ => simp [proceed, stage]

/-- A payload that has records comes to be stored; any other is passed over. -/
theorem receive_payload (reading : connection.stage = .reading deadline) (text : String) :
    connection.receive (.payload text) =
      if (rawRecords text).isEmpty then connection
      else { connection with stage := .storing (rawRecords text) deadline } := by
  cases read : splitPayload text with
  | error error => simp [receive, rawRecords, reading, read, Except.toOption]
  | ok items =>
    cases items with
    | nil => simp [receive, rawRecords, reading, read, Except.toOption]
    | cons item rest => simp [receive, rawRecords, reading, read, Except.toOption]

/-- Closing sends the records gathered and loses none. -/
theorem close_held (emptied : connection.closed = true → connection.pending = []) :
    (connection.close now).held = connection.held := by
  rw [← connection.flush_held now]
  by_cases ready : (connection.closed || connection.pending.isEmpty) = true
  · have nothing : connection.pending = [] := by
      rcases Bool.or_eq_true_iff.mp ready with closed | empty
      · exact emptied closed
      · exact List.isEmpty_iff.mp empty
    simp [close, flush, held, nothing]
  · simp [close, flush, held, ready]

end Connection

namespace Watched

open Connection (Move TaskStep)

variable {watched : Watched} (settings : StreamSettings)

/-- What a task has in its hand: the payload whose records are to be stored, and nothing at any other
time. A task out of service may have been stopped with a payload in its hand. -/
def Holds (inHand : Option String) : Stage → Prop
  | .storing items _ => ∃ text, inHand = some text ∧ rawRecords text = items
  | .stopped => True
  | _ => inHand = none

/-- The books of a connection. A closed one gathers no records; and as long as it is open, the payloads
that arrived are those taken in and the one in hand. -/
structure Balanced (watched : Watched) : Prop where
  accounted : batched watched.past.delivered ++ watched.connection.held =
    watched.past.takenIn.flatMap rawRecords
  holds : Holds watched.past.inHand watched.connection.stage
  arrivals : watched.connection.closed = false →
    watched.past.arrived = watched.past.takenIn ++ watched.past.inHand.toList
  emptied : watched.connection.closed = true → watched.connection.pending = []

theorem fresh_balanced (url : String) : (fresh url).Balanced where
  accounted := rfl
  holds := rfl
  arrivals _ := rfl
  emptied _ := rfl

/-- An empty hand fits every stage but the one in which records are to be stored. -/
private theorem empty_hand_holds (elsewhere : ∀ items deadline, stage ≠ .storing items deadline) :
    Holds none stage := by
  cases stage with
  | storing items deadline => exact absurd rfl (elsewhere items deadline)
  | _ => simp [Holds]

/-- Where a step goes on, the payload in hand is taken in together with its records. -/
private theorem proceeded_records (balanced : watched.Balanced) :
    (watched.past.proceeded watched.connection).takenIn.flatMap rawRecords =
      watched.past.takenIn.flatMap rawRecords ++ watched.connection.toStore := by
  have holds := balanced.holds
  cases stage : watched.connection.stage with
  | storing items deadline =>
    rw [stage] at holds
    obtain ⟨text, inHand, records⟩ := holds
    simp only [Past.proceeded, Connection.toStore, stage]
    split <;> simp [inHand, records]
  | _ => simp [Past.proceeded, Connection.toStore, stage]

/-- A task that goes on has nothing in its hand afterwards. -/
private theorem proceeded_hand (balanced : watched.Balanced)
    (running : watched.connection.stage ≠ .stopped) :
    (watched.past.proceeded watched.connection).inHand = none := by
  have holds := balanced.holds
  cases stage : watched.connection.stage with
  | storing items deadline => simp [Past.proceeded, stage]
  | stopped => exact absurd stage running
  | _ => simpa [Past.proceeded, stage, Holds] using holds

private theorem proceeded_arrivals (balanced : watched.Balanced)
    (opened : watched.connection.closed = false) :
    (watched.past.proceeded watched.connection).arrived =
      (watched.past.proceeded watched.connection).takenIn ++
        (watched.past.proceeded watched.connection).inHand.toList := by
  have arrivals := balanced.arrivals opened
  simp only [Past.proceeded]
  split
  · simpa [opened] using arrivals
  · exact arrivals

private theorem balanced_proceed (balanced : watched.Balanced) (now : Nat) :
    (watched.after settings (.task (.proceed now))).Balanced where
  accounted := by
    simp only [after, Past.after, proceeded_records balanced, ← balanced.accounted, List.append_assoc]
    rw [← Connection.proceed_held settings]
    exact congrArg (batched · ++ _) (step_keeps_delivered watched.past _ (.proceed now))
  holds := by
    by_cases stopped : watched.connection.stage = .stopped
    · simp [after, Connection.after, Connection.afterStep, Connection.proceed, stopped, Holds]
    · simp only [after, Past.after, proceeded_hand balanced stopped]
      exact empty_hand_holds (Connection.proceed_stores settings)
  arrivals opened :=
    proceeded_arrivals balanced ((Connection.step_keeps_closed settings (.proceed now)).symm.trans opened)
  emptied closed := by
    have before : watched.connection.closed = true :=
      (Connection.step_keeps_closed settings (.proceed now)).symm.trans closed
    exact (Connection.closed_step_is_silent settings before (.proceed now)).2.trans
      (balanced.emptied before)

/-- A payload without records is taken in at once, and adds none. -/
private theorem balanced_recordless (balanced : watched.Balanced)
    (reading : watched.connection.stage = .reading deadline) (recordless : rawRecords text = []) :
    (watched.after settings (.task (.receive (.payload text)))).Balanced := by
  have same : watched.connection.receive (.payload text) = watched.connection := by
    rw [Connection.receive_payload reading, recordless]
    rfl
  have empty : watched.past.inHand = none := by simpa [reading, Holds] using balanced.holds
  simp only [after, Connection.after, Connection.afterStep, same, Past.after, Past.handed, reading,
    recordless]
  refine ⟨?_, ?_, ?_, balanced.emptied⟩
  · rw [balanced.accounted]
    cases watched.connection.closed <;> simp [recordless]
  · simp [reading, Holds]
  · intro opened
    simpa [opened, empty] using balanced.arrivals opened

/-- A payload that has records stays in the hand until they are stored. -/
private theorem balanced_in_hand (balanced : watched.Balanced)
    (reading : watched.connection.stage = .reading deadline) (records : rawRecords text ≠ []) :
    (watched.after settings (.task (.receive (.payload text)))).Balanced := by
  have waiting : (rawRecords text).isEmpty = false := by simpa using records
  have empty : watched.past.inHand = none := by simpa [reading, Holds] using balanced.holds
  simp only [after, Connection.after, Connection.afterStep, Connection.receive_payload reading,
    Past.after, Past.handed, reading, waiting, Bool.false_eq_true, if_false]
  refine ⟨?_, ⟨text, rfl, rfl⟩, ?_, balanced.emptied⟩
  · simpa [Connection.held] using balanced.accounted
  · intro opened
    have opened : watched.connection.closed = false := opened
    simpa [opened, empty] using balanced.arrivals opened

/-- A move to another stage keeps the books as long as the hand fits that stage. -/
private theorem balanced_moved (balanced : watched.Balanced)
    (holds : Holds watched.past.inHand stage) :
    Balanced ⟨{ watched.connection with stage }, watched.past⟩ :=
  ⟨balanced.accounted, holds, balanced.arrivals, balanced.emptied⟩

/-- A signal that is no payload, or that nobody reads, leaves the hand as it was. -/
private theorem receive_holds {connection : Connection} (holds : Holds inHand connection.stage)
    (unread : ∀ text deadline, signal = .payload text → connection.stage ≠ .reading deadline) :
    Holds inHand (connection.receive signal).stage := by
  unfold Connection.receive
  split
  · rename_i opening
    simpa [opening, Holds] using holds
  · rename_i opening
    simpa [opening, Holds] using holds
  · rename_i deadline text reading
    exact absurd reading (unread text deadline rfl)
  · rename_i reading
    simpa [reading, Holds] using holds
  · exact holds

private theorem wake_holds {connection : Connection} (holds : Holds inHand connection.stage) :
    Holds inHand connection.wake.stage := by
  unfold Connection.wake
  split
  · rename_i reading
    simpa [reading, Holds] using holds
  · rename_i resting
    simpa [resting, Holds] using holds
  · exact holds

private theorem balanced_unread (balanced : watched.Balanced)
    (unread : ∀ text deadline, signal = .payload text →
      watched.connection.stage ≠ .reading deadline) :
    Balanced ⟨watched.connection.receive signal, watched.past⟩ := by
  have holds := receive_holds balanced.holds unread
  obtain ⟨stage, moved⟩ := watched.connection.receive_moves_stage signal
  rw [moved] at holds ⊢
  exact balanced_moved balanced holds

private theorem balanced_receive (balanced : watched.Balanced) (signal : Signal) :
    (watched.after settings (.task (.receive signal))).Balanced := by
  cases signal with
  | payload text =>
    by_cases reading : ∃ deadline, watched.connection.stage = .reading deadline
    · obtain ⟨deadline, reading⟩ := reading
      by_cases recordless : rawRecords text = []
      · exact balanced_recordless settings balanced reading recordless
      · exact balanced_in_hand settings balanced reading recordless
    · have unread : watched.past.handed watched.connection text = watched.past := by
        unfold Past.handed
        split
        · rename_i deadline found
          exact absurd ⟨deadline, found⟩ reading
        · rfl
      simp only [after, Past.after, unread]
      exact balanced_unread balanced fun _ deadline _ found => reading ⟨deadline, found⟩
  | accepted => exact balanced_unread balanced (by simp)
  | refused error => exact balanced_unread balanced (by simp)
  | broken error => exact balanced_unread balanced (by simp)

private theorem balanced_wake (balanced : watched.Balanced) :
    (watched.after settings (.task .wake)).Balanced := by
  have holds := wake_holds balanced.holds
  obtain ⟨stage, moved⟩ := watched.connection.wake_moves_stage
  simp only [after, Connection.after, Connection.afterStep, moved] at holds ⊢
  exact balanced_moved balanced holds

private theorem balanced_close (balanced : watched.Balanced) (now : Nat) :
    (watched.after settings (.close now)).Balanced where
  accounted :=
    (congrArg (batched watched.past.delivered ++ ·) (Connection.close_held balanced.emptied)).trans
      balanced.accounted
  holds := by
    have stage : (watched.connection.close now).stage = watched.connection.stage := by
      simp only [Connection.close, Connection.flush]
      split <;> rfl
    simp only [after, Connection.after, stage]
    exact balanced.holds
  arrivals opened := by cases opened
  emptied _ := rfl

/-- Every move keeps the books of a connection in balance. -/
theorem balanced_after (balanced : watched.Balanced) (move : Move) :
    (watched.after settings move).Balanced := by
  cases move with
  | task step =>
    cases step with
    | proceed now => exact balanced_proceed settings balanced now
    | receive signal => exact balanced_receive settings balanced signal
    | wake => exact balanced_wake settings balanced
    | stop => exact balanced_moved balanced trivial
  | close now => exact balanced_close settings balanced now
  | take =>
    refine ⟨?_, balanced.holds, balanced.arrivals, balanced.emptied⟩
    have taken := balanced.accounted
    simp only [Connection.held] at taken
    simp [after, Past.after, Connection.after, Connection.drained, Connection.held, batched, ← taken]

/-- The books of a connection balance after every run. -/
theorem balanced_run (balanced : watched.Balanced) (moves : List Move) :
    (watched.run settings moves).Balanced := by
  induction moves generalizing watched with
  | nil => exact balanced
  | cons move moves ih => exact ih (balanced_after settings balanced move)

/-- The records of all batches sent, and those still gathered, are the records of the payloads taken
in. -/
theorem balanced_sent (balanced : watched.Balanced) :
    batched watched.sent ++ watched.connection.pending = watched.past.takenIn.flatMap rawRecords := by
  rw [← balanced.accounted, sent, batched_append, List.append_assoc, Connection.held]

/-- No record is lost, repeated or moved. Whatever happens to a connection and in whatever order, the
records of all batches sent, followed by those it still gathers, are the records of the payloads taken
in, in the order of their arrival; and as long as it is open, these are all payloads that arrived but
for one in hand. Once it was closed nothing is gathered and no payload is taken in, and the batches
alone are these records. -/
theorem batches_are_records_taken_in (url : String) (moves : List Move) :
    let watched := (fresh url).run settings moves
    batched watched.sent ++ watched.connection.pending = watched.past.takenIn.flatMap rawRecords ∧
      (watched.connection.closed = false →
        watched.past.arrived = watched.past.takenIn ++ watched.past.inHand.toList) ∧
      ∀ now later,
        let ended := (watched.after settings (.close now)).run settings later
        ended.connection.pending = [] ∧ ended.past.takenIn = watched.past.takenIn ∧
          batched ended.sent = watched.past.takenIn.flatMap rawRecords := by
  intro watched
  have balanced : watched.Balanced := balanced_run settings (fresh_balanced url) moves
  refine ⟨balanced_sent balanced, balanced.arrivals, ?_⟩
  intro now later ended
  have atEnd := ended_run settings (ended_of_close settings watched now) later
  have accounted : batched ended.sent ++ ended.connection.pending =
      ended.past.takenIn.flatMap rawRecords :=
    balanced_sent (balanced_run settings (balanced_close settings balanced now) later)
  rw [atEnd.emptied, atEnd.taken_before, List.append_nil] at accounted
  exact ⟨atEnd.emptied, atEnd.taken_before, accounted⟩

end Watched

end LiveLog
