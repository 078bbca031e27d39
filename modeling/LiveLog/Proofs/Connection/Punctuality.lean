import LiveLog.Proofs.Connection.Delivery
import LiveLog.Proofs.Connection.Waiting
import Mathlib.Data.List.Forall2

/-! A batch delays no record by more than the batch interval. The first record that is gathered sets the
time to deliver, later ones leave it where it is, and every delivery takes all that is gathered. So the
time a connection reads until is always the one its oldest record must leave by, and since the clock
never passes a time that somebody waits for, the record leaves by then. -/
namespace LiveLog

open Connection (TaskStep)

/-- The records of all batches among events sent, each with the time at which it was sent. -/
def departures (sent : List Sent) : List Stamped :=
  sent.flatMap fun item => match item.event with
    | .batch raw => raw.map (⟨item.time, ·⟩)
    | _ => []

@[simp] theorem departures_append (first second : List Sent) :
    departures (first ++ second) = departures first ++ departures second :=
  List.flatMap_append

theorem departures_batch (time : Nat) (raw : List Json) :
    departures [⟨time, .batch raw⟩] = raw.map (⟨time, ·⟩) :=
  List.append_nil _

/-- The records that have departed are those of the batches. -/
theorem departures_records (sent : List Sent) :
    (departures sent).map (·.record) = batched sent := by
  simp only [departures, batched, List.map_flatMap]
  congr 1
  funext item
  cases item.event <;> simp [Function.comp_def]

/-- A record left in a batch after it had arrived, and no later than an interval after that. -/
structure InTime (interval : Nat) (arrival departure : Stamped) : Prop where
  same : departure.record = arrival.record
  arrived : arrival.time ≤ departure.time
  no_later : departure.time ≤ arrival.time + interval

/-- When records that wait must leave: an interval after the first of them arrived. -/
def leaveBy (interval : Nat) (waiting : List Stamped) : Option Nat :=
  waiting.head?.map (·.time + interval)

/-! ### The ledger of arrivals and departures -/

/-- The records that arrived are those that left, each in time, and behind them those that wait. None of
these is late yet. -/
structure Ledger (interval now : Nat) (sent : List Sent) (pending : List Json)
    (arrivals left waiting : List Stamped) : Prop where
  split : arrivals = left ++ waiting
  in_time : List.Forall₂ (InTime interval) left (departures sent)
  gathered : waiting.map (·.record) = pending
  in_order : arrivals.Pairwise (·.time ≤ ·.time)
  arrived : ∀ arrival ∈ arrivals, arrival.time ≤ now
  not_late : ∀ arrival ∈ waiting, now ≤ arrival.time + interval

namespace Ledger

variable {interval now : Nat} {sent : List Sent} {pending items : List Json}
  {arrivals left waiting : List Stamped}

/-- The first record that waits arrived first. -/
theorem oldest (ledger : Ledger interval now sent pending arrivals left (first :: rest)) :
    ∀ arrival ∈ first :: rest, first.time ≤ arrival.time := by
  have ordered : (first :: rest).Pairwise (·.time ≤ ·.time) :=
    (List.pairwise_append.mp (ledger.split ▸ ledger.in_order)).2.1
  intro arrival member
  rcases List.mem_cons.mp member with rfl | later
  · exact Nat.le_refl _
  · exact (List.pairwise_cons.mp ordered).1 arrival later

/-- An event that is no batch takes no record along. -/
theorem told (ledger : Ledger interval now sent pending arrivals left waiting) {event : Sent}
    (plain : departures [event] = []) :
    Ledger interval now (sent ++ [event]) pending arrivals left waiting :=
  { ledger with in_time := by simpa [plain] using ledger.in_time }

/-- A batch takes every record along that waits, and each of them in time. -/
theorem delivered (ledger : Ledger interval now sent pending arrivals left waiting) :
    Ledger interval now (sent ++ [⟨now, .batch pending⟩]) [] arrivals (left ++ waiting) [] where
  split := by rw [List.append_nil, ← ledger.split]
  in_time := by
    rw [departures_append, departures_batch, ← ledger.gathered, List.map_map]
    refine List.rel_append ledger.in_time ?_
    rw [List.forall₂_map_right_iff, List.forall₂_same]
    intro arrival member
    have before : arrival ∈ arrivals := by
      rw [ledger.split]
      exact List.mem_append_right left member
    exact ⟨rfl, ledger.arrived arrival before, ledger.not_late arrival member⟩
  gathered := rfl
  in_order := ledger.in_order
  arrived := ledger.arrived
  not_late := nofun

/-- Records that arrive wait behind the others. -/
theorem stored (ledger : Ledger interval now sent pending arrivals left waiting)
    (items : List Json) :
    Ledger interval now sent (pending ++ items) (arrivals ++ items.map (⟨now, ·⟩)) left
      (waiting ++ items.map (⟨now, ·⟩)) where
  split := by rw [ledger.split, List.append_assoc]
  in_time := ledger.in_time
  gathered := by simp [ledger.gathered, Function.comp_def]
  in_order := by
    refine List.pairwise_append.mpr ⟨ledger.in_order, ?_, ?_⟩
    · exact List.pairwise_map.mpr (List.pairwise_of_forall fun _ _ => Nat.le_refl now)
    · intro arrival before new member
      obtain ⟨item, -, rfl⟩ := List.mem_map.mp member
      exact ledger.arrived arrival before
  arrived := by
    intro arrival member
    rcases List.mem_append.mp member with before | new
    · exact ledger.arrived arrival before
    · obtain ⟨item, -, rfl⟩ := List.mem_map.mp new
      exact Nat.le_refl now
  not_late := by
    intro arrival member
    rcases List.mem_append.mp member with before | new
    · exact ledger.not_late arrival before
    · obtain ⟨item, -, rfl⟩ := List.mem_map.mp new
      exact Nat.le_add_right now interval

/-- Where the first record that waits has time left, so has every other. -/
theorem early (ledger : Ledger interval now sent pending arrivals left waiting)
    (ahead : (leaveBy interval waiting).all (now < ·) = true) :
    ∀ arrival ∈ waiting, now < arrival.time + interval := by
  cases waiting with
  | nil => nofun
  | cons first rest =>
    have first_early : now < first.time + interval := by simpa [leaveBy] using ahead
    intro arrival member
    have order := ledger.oldest arrival member
    omega

/-- Then the clock may move. -/
theorem ticked (ledger : Ledger interval now sent pending arrivals left waiting)
    (ahead : (leaveBy interval waiting).all (now < ·) = true) :
    Ledger interval (now + 1) sent pending arrivals left waiting :=
  { ledger with
    arrived := fun arrival member => Nat.le_succ_of_le (ledger.arrived arrival member)
    not_late := ledger.early ahead }

end Ledger

/-! ### One connection -/

/-- What a connection that is open waits until, where records wait. It reads until the first of them must
leave; when that time has come, or the stream is over, it is about to deliver; elsewhere none waits. -/
def Armed (interval now handedAt : Nat) (waiting : List Stamped) : Stage → Prop
  | .reading deadline => deadline = leaveBy interval waiting
  | .storing items deadline => deadline = leaveBy interval waiting ∧ items ≠ [] ∧ handedAt = now
  | .flushing => True
  | .ending _ => True
  | _ => waiting = []

/-- The ledger of a connection at a time, beside the events taken from its channel before. -/
def Ledgered (interval now : Nat) (delivered : List Sent) (connection : Connection)
    (chronicle : Chronicle) : Prop :=
  ∃ left waiting, Ledger interval now (delivered ++ connection.outbox) connection.pending
      chronicle.arrivals left waiting ∧
    (connection.closed = false → Armed interval now chronicle.handedAt waiting connection.stage)

namespace Connection

variable {connection : Connection} {now interval : Nat} {delivered : List Sent}
  {arrivals left waiting : List Stamped}

/-- After a delivery no record waits. -/
theorem flush_ledger (opened : connection.closed = false)
    (ledger : Ledger interval now (delivered ++ connection.outbox) connection.pending arrivals
      left waiting) :
    ∃ left, Ledger interval now (delivered ++ (connection.flush now).outbox)
      (connection.flush now).pending arrivals left [] := by
  by_cases empty : connection.pending = []
  · have nobody : waiting = [] := List.map_eq_nil_iff.mp (ledger.gathered.trans empty)
    subst nobody
    exact ⟨left, by simpa [flush, empty] using ledger⟩
  · refine ⟨left ++ waiting, ?_⟩
    simpa [flush, opened, empty] using ledger.delivered

end Connection

section Steps

variable {settings : StreamSettings} {connection : Connection} {chronicle : Chronicle}
  {now interval : Nat} {delivered : List Sent} {left waiting : List Stamped}

/-- The records that are stored wait behind the others, and only the first of all sets the time. -/
private theorem leaveBy_stored (waiting : List Stamped) (filled : items ≠ []) :
    some ((leaveBy interval waiting).getD (now + interval)) =
      leaveBy interval (waiting ++ items.map (⟨now, ·⟩)) := by
  cases waiting with
  | nil =>
    cases items with
    | nil => exact absurd rfl filled
    | cons item rest => rfl
  | cons first rest => rfl

private theorem ledgered_proceed (opened : connection.closed = false)
    (ledger : Ledger settings.batchInterval now (delivered ++ connection.outbox) connection.pending
      chronicle.arrivals left waiting)
    (armed : Armed settings.batchInterval now chronicle.handedAt waiting connection.stage) :
    Ledgered settings.batchInterval now delivered (connection.proceed settings now)
      (chronicle.after connection now (.proceed now)) := by
  cases stage : connection.stage with
  | storing items deadline =>
    rw [stage] at armed
    obtain ⟨rfl, filled, rfl⟩ := armed
    simp only [Connection.proceed, Chronicle.after, stage, opened]
    exact ⟨left, _, ledger.stored items, fun _ => leaveBy_stored waiting filled⟩
  | flushing =>
    obtain ⟨left, flushed⟩ := Connection.flush_ledger opened ledger
    simp only [Connection.proceed, Chronicle.after, stage]
    exact ⟨left, [], flushed, fun _ => rfl⟩
  | ending cause =>
    obtain ⟨left, flushed⟩ := Connection.flush_ledger opened ledger
    simp only [Connection.proceed, Chronicle.after, stage]
    exact ⟨left, [], flushed, fun _ => rfl⟩
  | announcing =>
    rw [stage] at armed
    cases armed
    have plain : departures [⟨now, .opened⟩] = [] := rfl
    have told := ledger.told plain
    rw [List.append_assoc] at told
    simp only [Connection.proceed, Connection.emit, Chronicle.after, stage, opened]
    exact ⟨left, [], told, fun _ => rfl⟩
  | reporting cause attempt =>
    rw [stage] at armed
    have plain : departures [⟨now, .error cause attempt⟩] = [] := rfl
    have told := ledger.told plain
    rw [List.append_assoc] at told
    simp only [Connection.proceed, Connection.emit, Chronicle.after, stage, opened]
    exact ⟨left, waiting, told, fun _ => armed⟩
  | starting | greeting | failing =>
    rw [stage] at armed
    simp only [Connection.proceed, Chronicle.after, stage]
    exact ⟨left, waiting, ledger, fun _ => armed⟩
  | _ =>
    simp only [Connection.proceed, Chronicle.after, stage]
    exact ⟨left, waiting, ledger, fun _ => armed⟩

/-- Of all signals, a payload that has records notes the time, and the others move no deadline. -/
private theorem armed_receive {connection : Connection}
    (armed : Armed interval now chronicle.handedAt waiting connection.stage) (signal : Signal) :
    Armed interval now (chronicle.after connection now (.receive signal)).handedAt waiting
      (connection.receive signal).stage := by
  cases stage : connection.stage with
  | reading deadline =>
    rw [stage] at armed
    cases signal with
    | payload text =>
      rw [Connection.receive_payload stage]
      split
      · rwa [stage]
      · rename_i filled
        refine ⟨armed, fun empty => filled (by simp [empty]), ?_⟩
        simp [Chronicle.after, stage]
    | broken error => simp [Connection.receive, stage, Armed]
    | accepted => simpa [Connection.receive, Chronicle.after, stage] using armed
    | refused error => simpa [Connection.receive, Chronicle.after, stage] using armed
  | opening =>
    rw [stage] at armed
    cases signal <;> simpa [Connection.receive, stage, Armed] using armed
  | _ => simpa [Connection.receive, Chronicle.after, stage] using armed

private theorem armed_wake {connection : Connection}
    (armed : Armed interval now handedAt waiting connection.stage) :
    Armed interval now handedAt waiting connection.wake.stage := by
  cases stage : connection.stage with
  | reading deadline =>
    cases deadline with
    | none => simpa [Connection.wake, stage] using armed
    | some due => simp [Connection.wake, stage, Armed]
  | resting moment => simpa [Connection.wake, stage, Armed] using armed
  | _ => simpa [Connection.wake, stage] using armed

private theorem ledgered_receive
    (ledger : Ledger interval now (delivered ++ connection.outbox) connection.pending
      chronicle.arrivals left waiting)
    (armed : Armed interval now chronicle.handedAt waiting connection.stage) (signal : Signal) :
    Ledgered interval now delivered (connection.receive signal)
      (chronicle.after connection now (.receive signal)) := by
  have same : (chronicle.after connection now (.receive signal)).arrivals = chronicle.arrivals := by
    simp only [Chronicle.after]
    split <;> rfl
  obtain ⟨next, moved⟩ := connection.receive_moves_stage signal
  refine ⟨left, waiting, ?_, fun _ => armed_receive armed signal⟩
  rw [same, moved]
  exact ledger

private theorem ledgered_wake
    (ledger : Ledger interval now (delivered ++ connection.outbox) connection.pending
      chronicle.arrivals left waiting)
    (armed : Armed interval now chronicle.handedAt waiting connection.stage) :
    Ledgered interval now delivered connection.wake (chronicle.after connection now .wake) := by
  obtain ⟨next, moved⟩ := connection.wake_moves_stage
  refine ⟨left, waiting, ?_, fun _ => armed_wake armed⟩
  rw [moved]
  exact ledger

/-- Whatever step the task takes at a time, the ledger stays one. -/
private theorem ledgered_step (taken : connection.takes now step = true)
    (ledgered : Ledgered settings.batchInterval now delivered connection chronicle) :
    Ledgered settings.batchInterval now delivered (connection.afterStep settings step)
      (chronicle.after connection now step) := by
  obtain ⟨left, waiting, ledger, armed⟩ := ledgered
  cases step with
  | proceed moment =>
    obtain ⟨opened, rfl⟩ := Connection.takes_proceed.mp taken
    exact ledgered_proceed opened ledger (armed opened)
  | receive signal =>
    exact ledgered_receive ledger (armed (Connection.takes_receive.mp taken)) signal
  | wake => exact ledgered_wake ledger (armed (Connection.takes_wake.mp taken).1)
  | stop =>
    have closed := Connection.takes_stop.mp taken
    exact ⟨left, waiting, ledger, fun opened => Bool.noConfusion (closed.symm.trans opened)⟩

/-- A connection that waits has a later deadline, if any record waits with it. -/
private theorem armed_waits {connection : Connection}
    (opened : connection.closed = false) (waits : connection.waits now = true)
    (armed : Armed interval now handedAt waiting connection.stage) :
    (leaveBy interval waiting).all (now < ·) = true ∧
      Armed interval (now + 1) handedAt waiting connection.stage := by
  rcases Connection.waits_cases opened waits with stage | ⟨deadline, stage, ahead⟩ | ⟨wake, stage, -⟩
  · rw [stage] at armed ⊢
    cases armed
    exact ⟨rfl, rfl⟩
  · rw [stage] at armed ⊢
    cases armed
    exact ⟨ahead, rfl⟩
  · rw [stage] at armed ⊢
    cases armed
    exact ⟨rfl, rfl⟩

/-- No record of a connection leaves late, whatever happens to it. -/
theorem ledgered_kept (settings : StreamSettings) :
    Timeline.Kept settings fun now watched chronicle => watched.Balanced ∧
      Ledgered settings.batchInterval now watched.past.delivered watched.connection chronicle where
  task := by
    rintro now watched chronicle step ⟨balanced, ledgered⟩ taken
    refine ⟨Watched.balanced_after settings balanced (.task step), ?_⟩
    rw [Watched.after, Watched.step_keeps_delivered]
    exact ledgered_step taken ledgered
  tick := by
    rintro now watched chronicle ⟨balanced, left, waiting, ledger, armed⟩ waits
    refine ⟨balanced, left, waiting, ?_⟩
    cases opened : watched.connection.closed with
    | false =>
      obtain ⟨ahead, stays⟩ := armed_waits opened waits (armed opened)
      exact ⟨ledger.ticked ahead, fun _ => stays⟩
    | true =>
      have nobody : waiting = [] :=
        List.map_eq_nil_iff.mp (ledger.gathered.trans (balanced.emptied opened))
      exact ⟨ledger.ticked (by rw [nobody]; rfl), fun opened => Bool.noConfusion opened⟩
  close := by
    rintro now watched chronicle ⟨balanced, left, waiting, ledger, armed⟩
    refine ⟨Watched.balanced_after settings balanced (.close now), ?_⟩
    cases opened : watched.connection.closed with
    | false =>
      obtain ⟨left, flushed⟩ := Connection.flush_ledger opened ledger
      exact ⟨left, [], { flushed with gathered := rfl }, fun opened => Bool.noConfusion opened⟩
    | true =>
      have same : watched.connection.close now = watched.connection :=
        Connection.close_again opened (balanced.emptied opened)
      refine ⟨left, waiting, ?_, fun opened => Bool.noConfusion opened⟩
      simp only [Watched.after, Connection.after, same]
      exact ledger
  take := by
    rintro now watched chronicle ⟨balanced, left, waiting, ledger, armed⟩
    refine ⟨Watched.balanced_after settings balanced .take, left, waiting, ?_, armed⟩
    simp only [Watched.after, Connection.after, Connection.drained, Past.after, List.append_nil]
    exact ledger

theorem fresh_ledgered (interval : Nat) (url : String) (now : Nat) :
    (Watched.fresh url).Balanced ∧ Ledgered interval now [] (.new url) {} :=
  ⟨Watched.fresh_balanced url, [], [], ⟨rfl, .nil, rfl, .nil, nofun, nofun⟩, fun _ => rfl⟩

end Steps

/-! ### Records leave in time -/

/-- The records that arrived at a connection and have not left it yet. -/
def Chronicle.gathered (chronicle : Chronicle) (sent : List Sent) : List Stamped :=
  chronicle.arrivals.drop (departures sent).length

/-- What holds at any time of the records that arrive at a connection and leave it. -/
structure Prompt (interval now : Nat) (watched : Watched) (chronicle : Chronicle) : Prop where
  /-- The records that arrived are those of the payloads taken in. -/
  recorded : chronicle.arrivals.map (·.record) = watched.past.takenIn.flatMap rawRecords
  in_order : chronicle.arrivals.Pairwise (·.time ≤ ·.time)
  /-- The first of them left in batches, each in time, -/
  in_time : List.Forall₂ (InTime interval)
    (chronicle.arrivals.take (departures watched.sent).length) (departures watched.sent)
  /-- and the others are still gathered, -/
  gathered : (chronicle.gathered watched.sent).map (·.record) = watched.connection.pending
  /-- which is not too late for them. -/
  not_late : ∀ arrival ∈ chronicle.gathered watched.sent, now ≤ arrival.time + interval
  /-- A connection that waits while it gathers records reads until the oldest of them must leave. -/
  armed : watched.connection.waits now = true → watched.connection.pending ≠ [] →
    ∃ oldest, (chronicle.gathered watched.sent).head? = some oldest ∧
      watched.connection.stage = .reading (some (oldest.time + interval)) ∧
      now < oldest.time + interval
  /-- One that waits and gathers none has no time to deliver at. -/
  unarmed : watched.connection.waits now = true → watched.connection.pending = [] →
    ∀ deadline : Nat, watched.connection.stage ≠ .reading (some deadline)
  /-- Once a connection waits and the time of a record has come, the record has left in time. -/
  departed : watched.connection.waits now = true → ∀ (index : Nat) (arrival : Stamped),
    chronicle.arrivals[index]? = some arrival → arrival.time + interval ≤ now →
    ∃ departure, (departures watched.sent)[index]? = some departure ∧
      InTime interval arrival departure

/-- A connection that waits reads until the oldest record must leave, which lies ahead, or it gathers none
and reads nothing. -/
private theorem Ledgered.at_rest {watched : Watched} (balanced : watched.Balanced)
    (ledger : Ledger interval now watched.sent watched.connection.pending arrivals left waiting)
    (armed : watched.connection.closed = false →
      Armed interval now handedAt waiting watched.connection.stage)
    (waits : watched.connection.waits now = true) :
    (leaveBy interval waiting).all (now < ·) = true ∧
      (watched.connection.stage = .reading (leaveBy interval waiting) ∨
        waiting = [] ∧ ∀ deadline, watched.connection.stage ≠ .reading deadline) := by
  cases opened : watched.connection.closed with
  | true =>
    have nobody : waiting = [] :=
      List.map_eq_nil_iff.mp (ledger.gathered.trans (balanced.emptied opened))
    subst nobody
    refine ⟨rfl, .inr ⟨rfl, fun deadline reading => ?_⟩⟩
    simp [Connection.waits, reading, opened] at waits
  | false =>
    have armed := armed opened
    refine ⟨(armed_waits opened waits armed).1, ?_⟩
    rcases Connection.waits_cases opened waits with stage | ⟨deadline, stage, -⟩ | ⟨wake, stage, -⟩
    · rw [stage] at armed ⊢
      exact .inr ⟨armed, by simp⟩
    · rw [stage] at armed ⊢
      exact .inl (congrArg Stage.reading armed)
    · rw [stage] at armed ⊢
      exact .inr ⟨armed, by simp⟩

/-- What is promised of records can be read off the ledger. -/
theorem prompt_of_ledgered {watched : Watched} (balanced : watched.Balanced)
    (ledgered : Ledgered interval now watched.past.delivered watched.connection chronicle) :
    Prompt interval now watched chronicle := by
  obtain ⟨left, waiting, ledger, armed⟩ := ledgered
  have many : left.length = (departures watched.sent).length := ledger.in_time.length_eq
  have behind : chronicle.gathered watched.sent = waiting := by
    rw [Chronicle.gathered, ledger.split, ← many, List.drop_left]
  have rest := Ledgered.at_rest balanced ledger armed
  refine ⟨?_, ledger.in_order, ?_, ?_, ?_, ?_, ?_, ?_⟩
  · have records := (List.forall₂_map_left_iff.mpr (List.forall₂_map_right_iff.mpr
      (ledger.in_time.imp fun _ _ inTime => inTime.same.symm)) : List.Forall₂ (· = ·)
        (left.map (·.record)) ((departures watched.sent).map (·.record)))
    rw [List.forall₂_eq_eq_eq] at records
    rw [← balanced.accounted, ledger.split, List.map_append, records, departures_records,
      ledger.gathered, Watched.sent, batched_append, Connection.held, List.append_assoc]
  · rw [ledger.split, ← many, List.take_left]
    exact ledger.in_time
  · rw [behind]
    exact ledger.gathered
  · rw [behind]
    exact ledger.not_late
  · intro waits filled
    obtain ⟨ahead, reading | ⟨nobody, -⟩⟩ := rest waits
    · cases waiting with
      | nil => exact absurd ledger.gathered.symm filled
      | cons oldest later =>
        exact ⟨oldest, by rw [behind]; rfl, reading, by simpa [leaveBy] using ahead⟩
    · exact absurd (ledger.gathered.symm.trans (congrArg _ nobody)) filled
  · intro waits empty deadline reading
    have nobody : waiting = [] := List.map_eq_nil_iff.mp (ledger.gathered.trans empty)
    obtain ⟨-, armed | ⟨-, elsewhere⟩⟩ := rest waits
    · rw [reading, nobody] at armed
      cases armed
    · exact elsewhere _ reading
  · intro waits index arrival found due
    rw [ledger.split] at found
    by_cases before : index < left.length
    · rw [List.getElem?_append_left before] at found
      have there : index < (departures watched.sent).length := many ▸ before
      refine ⟨_, List.getElem?_eq_getElem there, ?_⟩
      rw [← (List.getElem_eq_iff before).mpr found]
      exact ledger.in_time.get before there
    · rw [List.getElem?_append_right (Nat.le_of_not_lt before)] at found
      have early := ledger.early (rest waits).1 arrival (List.mem_of_getElem? found)
      exact absurd early (Nat.not_lt.mpr due)

/-- At every moment of every run, records leave each connection no later than the batch interval after
they arrived, and while a connection waits with records, it reads until its oldest must leave. The clock
moves on by itself from there, to any later moment. -/
theorem records_leave_in_time (settings : StreamSettings) (happenings : List Timeline.Happening) :
    let timeline := (Timeline.start settings).run happenings
    timeline.AllHave (Prompt settings.batchInterval) ∧
      ∀ span, ∃ later : List Timeline.Happening, (∀ happening ∈ later, happening.Unattended) ∧
        (timeline.run later).now = timeline.now + span ∧ (timeline.run later).waits = true := by
  intro timeline
  have reached : Timeline.Reached settings timeline := ⟨happenings, rfl⟩
  refine ⟨fun number made => ?_, reached.reaches_time⟩
  obtain ⟨id, watched, serves, balanced, ledgered⟩ := (ledgered_kept settings).allHave
    (fun url now => fresh_ledgered settings.batchInterval url now) reached number made
  exact ⟨id, watched, serves, prompt_of_ledgered balanced ledgered⟩

end LiveLog
