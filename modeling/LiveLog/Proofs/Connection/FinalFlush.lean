import LiveLog.Proofs.Connection.Delivery
import LiveLog.Proofs.Connection.Traffic

/-! Nothing follows the final flush. When the connection of an instance is closed, its channel gets the
records gathered and no other event, though its task may stand anywhere and go on. The connection made
in its place has another channel, and what comes out there depends on its own moves only. -/
namespace LiveLog

/-- What closing a connection sends: the records gathered, as one batch, or nothing without records. -/
def Connection.finalFlush (connection : Connection) (now : Nat) : List Sent :=
  if connection.pending.isEmpty then [] else [⟨now, .batch connection.pending⟩]

/-- Closing sends the final flush and nothing else. -/
theorem Watched.close_sent {watched : Watched} (settings : StreamSettings)
    (emptied : watched.connection.closed = true → watched.connection.pending = []) (now : Nat) :
    (watched.after settings (.close now)).sent =
      watched.sent ++ watched.connection.finalFlush now := by
  have flushed : (watched.connection.close now).outbox =
      watched.connection.outbox ++ watched.connection.finalFlush now := by
    simp only [Connection.close, Connection.flush, Connection.finalFlush]
    by_cases empty : watched.connection.pending.isEmpty = true
    · simp [empty]
    · have opened : watched.connection.closed = false := by
        apply Bool.eq_false_iff.mpr
        intro closed
        exact empty (by rw [emptied closed]; rfl)
      simp [empty, opened]
  exact (congrArg (watched.past.delivered ++ ·) flushed).trans (List.append_assoc _ _ _).symm

namespace Traffic

variable {traffic : Traffic} {watched : Watched} {id : String} {number now : Nat}

/-- An act that closes the connection an instance has in use. -/
inductive Closing (id : String) (now : Nat) : Act → Prop where
  | disconnected : Closing id now (.disconnect id now)
  | replaced (url : String) : Closing id now (.connect id url now)

/-- The connection with a number, in use for an instance, is closed at a time. -/
structure ClosesForGood (traffic : Traffic) (id : String) (number now : Nat) : Prop where
  /-- Its channel gets the final flush and no other event, whatever follows. -/
  flushed : ∃ connection, traffic.table.all[number]? = some connection ∧
    ∀ act, Closing id now act → ∀ later,
      ((traffic.after act).run later).sent number =
        traffic.sent number ++ connection.finalFlush now
  /-- To disconnect tells of a connection once. Until the instance is connected anew, to disconnect
  again tells of none and changes nothing. -/
  once : (traffic.table.disconnect id now).2 = true ∧
    ∀ later, (∀ url moment, .connect id url moment ∉ later) → ∀ again,
      let ended := (traffic.after (.disconnect id now)).run later
      ended.table.disconnect id again = (ended.table, false)
  /-- The connection made in its place has another number, and is, whatever follows, what a fresh one
  is after the moves asked of it alone. -/
  replaced : ∀ url later,
    let replacement := (traffic.table.connect id url now).2
    replacement ≠ number ∧
      ((traffic.after (.connect id url now)).run later).watched? replacement =
        some ((Watched.fresh url).run traffic.table.settings
          (later.filterMap (moveOf? id replacement)))

theorem Serves.sent (serves : traffic.Serves id number watched) :
    traffic.sent number = watched.sent := by
  rw [Traffic.sent, serves.present]
  rfl

/-- A closing act sends the final flush, and no event is sent after it. -/
private theorem closing_sent (serves : traffic.Serves id number watched)
    (balanced : watched.Balanced) (closing : Closing id now act) (later : List Act) :
    ((traffic.after act).run later).sent number =
      traffic.sent number ++ watched.connection.finalFlush now := by
  have asked : moveOf? id number act = some (.close now) := by
    cases closing with
    | disconnected => simp [moveOf?]
    | replaced url => simp [moveOf?]
  have closed := serves_after serves act
  rw [asked] at closed
  have ended := Watched.ended_run (traffic.after act).table.settings
    (Watched.ended_of_close traffic.table.settings watched now)
    (later.filterMap (moveOf? id number))
  rw [(serves_run closed later).sent, serves.sent]
  exact ended.sent_before.trans (Watched.close_sent _ balanced.emptied now)

/-- An instance without a connection has none until it is connected. -/
private theorem unused_run (free : traffic.table.number? id = none) (acts : List Act)
    (unconnected : ∀ url moment, .connect id url moment ∉ acts) :
    (traffic.run acts).table.number? id = none := by
  induction acts generalizing traffic with
  | nil => exact free
  | cons act acts ih =>
    refine ih ?_ fun url moment member => unconnected url moment (List.mem_cons_of_mem _ member)
    cases act with
    | connect other url moment =>
      have differs : id ≠ other := by
        rintro rfl
        exact unconnected url moment List.mem_cons_self
      rw [after_connect, number?_placed (disconnected traffic other moment), if_neg differs]
      simp [after, Connections.number?_disconnect, free]
    | disconnect other moment => simp [after, Connections.number?_disconnect, free]
    | task other step => exact free
    | take other => exact free

/-- Nothing follows the final flush. Among all connections and in whatever order things happened, the
close of a connection in use is for good, and its replacement knows nothing of it. -/
theorem nothing_follows_final_flush (settings : StreamSettings) (before : List Act) (id : String)
    (number now : Nat)
    (used : ((start settings).run before).table.number? id = some number) :
    ClosesForGood ((start settings).run before) id number now := by
  have orderly : ((start settings).run before).Orderly :=
    orderly_run (start_orderly settings) before
  generalize (start settings).run before = traffic at used orderly ⊢
  obtain ⟨address, moves, serves⟩ := serves_of_use orderly used
  have balanced := Watched.balanced_run traffic.table.settings (Watched.fresh_balanced address) moves
  refine ⟨?flushed, ?once, ?replaced⟩
  case flushed =>
    obtain ⟨connection, found, same⟩ := Option.map_eq_some_iff.mp serves.present
    refine ⟨connection, found, fun act closing later => ?_⟩
    rw [closing_sent serves balanced closing later, ← same]
  case once =>
    refine ⟨by simp [Connections.disconnect, used], ?_⟩
    intro later unconnected again ended
    have free : ended.table.number? id = none :=
      unused_run (disconnected traffic id now) later unconnected
    simp [Connections.disconnect, free]
  case replaced =>
    intro url later replacement
    have new : replacement = (traffic.after (.disconnect id now)).table.all.size := rfl
    have size : (traffic.after (.disconnect id now)).table.all.size = traffic.table.all.size :=
      traffic.table.size_disconnect id now
    refine ⟨?_, ?_⟩
    · rw [new, size]
      exact Nat.ne_of_gt (orderly.in_range id number used)
    · have own := placed_serves (orderly_after orderly (.disconnect id now))
        (disconnected traffic id now) url
      rw [← after_connect, ← new] at own
      have present := (serves_run own later).present
      rwa [settings_after] at present

/-- A connection is closed that gathers one record. -/
theorem gathering_closes_for_good :
    let traffic := (start ⟨16, 5000⟩).run
      [.connect "job" "u" 0, .task 0 (.proceed 0), .task 0 (.receive .accepted),
        .task 0 (.proceed 1), .task 0 (.proceed 1), .task 0 (.receive (.payload "\x7b\x7d")),
        .task 0 (.proceed 2)]
    traffic.table.all[0]?.map (·.pending.length) = some 1 ∧
      traffic.table.number? "job" = some 0 ∧ ClosesForGood traffic "job" 0 7 :=
  ⟨by decide +kernel, by decide, nothing_follows_final_flush _ _ _ _ _ (by decide)⟩

end Traffic
end LiveLog
