import LiveLog.Connection.Basic

/-! Everything that may happen to one connection, in any order. Its task goes on by itself, takes a
signal from its stream or is woken by the clock; its owner closes it; whoever holds its channel takes
what was sent. Each step that reads or changes what is shared is a move of its own, so that the others
may come between any two of them. Beside the connection stands its past, which no move reads. -/
namespace LiveLog
namespace Connection

/-- A step of the task of a connection. -/
inductive TaskStep where
  /-- It does what it is about to do. -/
  | proceed (now : Nat)
  | receive (signal : Signal)
  /-- The time it waits for has come. -/
  | wake
  /-- It is taken out of service. -/
  | stop

/-- What happens to a connection. -/
inductive Move where
  | task (step : TaskStep)
  /-- Its owner closes it. -/
  | close (now : Nat)
  /-- The events sent are taken from its channel. -/
  | take

/-- The connection after a step of its task. -/
def afterStep (settings : StreamSettings) (connection : Connection) : TaskStep → Connection
  | .proceed now => connection.proceed settings now
  | .receive signal => connection.receive signal
  | .wake => connection.wake
  | .stop => connection.stop

/-- The connection after a move. -/
def after (settings : StreamSettings) (connection : Connection) : Move → Connection
  | .task step => connection.afterStep settings step
  | .close now => connection.close now
  | .take => connection.drained

variable {connection : Connection} (settings : StreamSettings) {now : Nat}

/-! ### What a move leaves alone -/

theorem emit_closed (closed : connection.closed = true) (event : StreamEvent) (stage : Stage) :
    connection.emit event now stage = { connection with stage := .stopped } := by
  rw [emit, if_pos closed]

theorem flush_closed (closed : connection.closed = true) : connection.flush now = connection := by
  rw [flush, if_pos (by simp [closed])]

@[simp] theorem emit_keeps_closed (event : StreamEvent) (stage : Stage) :
    (connection.emit event now stage).closed = connection.closed := by
  simp only [emit]
  split <;> rfl

@[simp] theorem flush_keeps_closed : (connection.flush now).closed = connection.closed := by
  simp only [flush]
  split <;> rfl

@[simp] theorem proceed_keeps_closed :
    (connection.proceed settings now).closed = connection.closed := by
  unfold proceed
  split
  case h_4 => split <;> rfl
  all_goals simp

/-- A signal moves a connection to another stage and changes nothing it shares. -/
theorem receive_moves_stage (connection : Connection) (signal : Signal) :
    ∃ stage, connection.receive signal = { connection with stage } := by
  unfold receive
  split
  · exact ⟨_, rfl⟩
  · exact ⟨_, rfl⟩
  · split
    · exact ⟨connection.stage, rfl⟩
    · exact ⟨connection.stage, rfl⟩
    · exact ⟨_, rfl⟩
  · exact ⟨_, rfl⟩
  · exact ⟨connection.stage, rfl⟩

/-- So does the clock. -/
theorem wake_moves_stage (connection : Connection) :
    ∃ stage, connection.wake = { connection with stage } := by
  unfold wake
  split
  · exact ⟨_, rfl⟩
  · exact ⟨_, rfl⟩
  · exact ⟨connection.stage, rfl⟩

/-- No step of its task opens or closes a connection. -/
theorem step_keeps_closed (step : TaskStep) :
    (connection.afterStep settings step).closed = connection.closed := by
  cases step with
  | proceed now => exact proceed_keeps_closed settings
  | receive signal =>
    obtain ⟨stage, moved⟩ := connection.receive_moves_stage signal
    rw [afterStep, moved]
  | wake =>
    obtain ⟨stage, moved⟩ := connection.wake_moves_stage
    rw [afterStep, moved]
  | stop => rfl

/-- Nor does it change the address. -/
theorem step_keeps_url (step : TaskStep) :
    (connection.afterStep settings step).url = connection.url := by
  cases step with
  | proceed now =>
    simp only [afterStep, proceed, emit, flush]
    split <;> try split
    all_goals rfl
  | receive signal =>
    obtain ⟨stage, moved⟩ := connection.receive_moves_stage signal
    rw [afterStep, moved]
  | wake =>
    obtain ⟨stage, moved⟩ := connection.wake_moves_stage
    rw [afterStep, moved]
  | stop => rfl

/-- A closed connection sends nothing and gathers nothing, whatever its task was about to do. -/
theorem closed_step_is_silent (closed : connection.closed = true) (step : TaskStep) :
    (connection.afterStep settings step).outbox = connection.outbox ∧
      (connection.afterStep settings step).pending = connection.pending := by
  cases step with
  | proceed now =>
    simp only [afterStep, proceed]
    split <;> simp [emit_closed closed, flush_closed closed, closed]
  | receive signal =>
    obtain ⟨stage, moved⟩ := connection.receive_moves_stage signal
    simp [afterStep, moved]
  | wake =>
    obtain ⟨stage, moved⟩ := connection.wake_moves_stage
    simp [afterStep, moved]
  | stop => simp [afterStep, stop]

/-- Closing a connection that is closed and holds no records changes nothing. -/
theorem close_again (closed : connection.closed = true) (emptied : connection.pending = []) :
    connection.close now = connection := by
  rw [close, flush_closed closed, ← closed, ← emptied]

end Connection

open Connection (Move TaskStep)

/-- The raw records of a payload. One that cannot be read has none. -/
def rawRecords (payload : String) : List Json :=
  (splitPayload payload).toOption.getD []

/-- The past of a connection: the events taken from its channel; the payloads that arrived while it was
open; the one in the hand of its task whose records are still to be stored; and those taken in. -/
structure Past where
  delivered : List Sent := []
  arrived : List String := []
  inHand : Option String := none
  takenIn : List String := []

namespace Past

/-- The stream hands a payload over. The task keeps one that has records in its hand, and is done with
any other at once. -/
def handed (connection : Connection) (past : Past) (text : String) : Past :=
  match connection.stage with
  | .reading _ =>
    { past with
      arrived := past.arrived ++ if connection.closed then [] else [text]
      inHand := if (rawRecords text).isEmpty then none else some text
      takenIn := past.takenIn ++
        if connection.closed || !(rawRecords text).isEmpty then [] else [text] }
  | _ => past

/-- The task goes on. The payload in its hand is taken in when its records are to be stored, unless the
connection was closed in between. -/
def proceeded (connection : Connection) (past : Past) : Past :=
  match connection.stage with
  | .storing _ _ =>
    { past with
      inHand := none
      takenIn := past.takenIn ++ if connection.closed then [] else past.inHand.toList }
  | _ => past

/-- The past after a move of the connection. -/
def after (connection : Connection) (past : Past) : Move → Past
  | .task (.proceed _) => past.proceeded connection
  | .task (.receive (.payload text)) => past.handed connection text
  | .take => { past with delivered := past.delivered ++ connection.outbox }
  | _ => past

end Past

/-- A connection and its past. -/
structure Watched where
  connection : Connection
  past : Past

namespace Watched

/-- A connection that was just made. -/
def fresh (url : String) : Watched := ⟨Connection.new url, {}⟩

/-- The connection and its past after a move. -/
def after (settings : StreamSettings) (watched : Watched) (move : Move) : Watched :=
  ⟨watched.connection.after settings move, watched.past.after watched.connection move⟩

/-- The connection and its past after moves in their order. -/
def run (settings : StreamSettings) (watched : Watched) (moves : List Move) : Watched :=
  moves.foldl (after settings) watched

/-- All events sent so far, whether they were taken or not. -/
def sent (watched : Watched) : List Sent :=
  watched.past.delivered ++ watched.connection.outbox

variable {watched : Watched} (settings : StreamSettings)

theorem run_concat (moves : List Move) (move : Move) :
    watched.run settings (moves ++ [move]) = (watched.run settings moves).after settings move :=
  List.foldl_append

/-- No step of its task takes an event from the channel. -/
theorem step_keeps_delivered (past : Past) (connection : Connection) (step : TaskStep) :
    (past.after connection (.task step)).delivered = past.delivered := by
  cases step with
  | proceed now =>
    simp only [Past.after, Past.proceeded]
    split <;> rfl
  | receive signal =>
    cases signal with
    | payload text =>
      simp only [Past.after, Past.handed]
      split <;> rfl
    | accepted => rfl
    | refused error => rfl
    | broken error => rfl
  | wake => rfl
  | stop => rfl

/-- What was sent after a step is what was taken before and what is in the channel now. -/
theorem sent_step (watched : Watched) (step : TaskStep) :
    (watched.after settings (.task step)).sent =
      watched.past.delivered ++ (watched.connection.afterStep settings step).outbox :=
  congrArg (· ++ _) (step_keeps_delivered watched.past watched.connection step)

/-- A closed connection takes no payload in. -/
theorem closed_step_takes_nothing_in {connection : Connection} (closed : connection.closed = true)
    (past : Past) (step : TaskStep) :
    (past.after connection (.task step)).takenIn = past.takenIn := by
  cases step with
  | proceed now =>
    simp only [Past.after, Past.proceeded, closed, if_true, List.append_nil]
    split <;> rfl
  | receive signal =>
    cases signal with
    | payload text =>
      simp only [Past.after, Past.handed, closed, Bool.true_or, if_true, List.append_nil]
      split <;> rfl
    | accepted => rfl
    | refused error => rfl
    | broken error => rfl
  | wake => rfl
  | stop => rfl

/-- A connection is closed and holds no records; these are all events it has sent and all payloads it
has taken in. -/
structure Ended (watched : Watched) (sent : List Sent) (takenIn : List String) : Prop where
  closed : watched.connection.closed = true
  emptied : watched.connection.pending = []
  sent_before : watched.sent = sent
  taken_before : watched.past.takenIn = takenIn

/-- Closing ends a connection, and takes no payload in. -/
theorem ended_of_close (watched : Watched) (now : Nat) :
    (watched.after settings (.close now)).Ended (watched.after settings (.close now)).sent
      watched.past.takenIn :=
  ⟨rfl, rfl, rfl, rfl⟩

theorem ended_after (ended : watched.Ended events payloads) (move : Move) :
    (watched.after settings move).Ended events payloads := by
  obtain ⟨closed, emptied, sentBefore, takenBefore⟩ := ended
  cases move with
  | task step =>
    obtain ⟨outbox, pending⟩ := Connection.closed_step_is_silent settings closed step
    refine ⟨(Connection.step_keeps_closed settings step).trans closed, pending.trans emptied, ?_,
      (closed_step_takes_nothing_in closed _ step).trans takenBefore⟩
    rw [sent, after, step_keeps_delivered]
    exact (congrArg (_ ++ ·) outbox).trans sentBefore
  | close now =>
    have same : watched.after settings (.close now) = watched :=
      congrArg (Watched.mk · watched.past) (Connection.close_again closed emptied)
    rw [same]
    exact ⟨closed, emptied, sentBefore, takenBefore⟩
  | take =>
    refine ⟨closed, emptied, ?_, takenBefore⟩
    rw [← sentBefore]
    exact List.append_nil _

/-- Once a connection has ended, no move makes it send an event or take a payload in. -/
theorem ended_run (ended : watched.Ended events payloads) (moves : List Move) :
    (watched.run settings moves).Ended events payloads := by
  induction moves generalizing watched with
  | nil => exact ended
  | cons move moves ih => exact ih (ended_after settings ended move)

end Watched
end LiveLog
