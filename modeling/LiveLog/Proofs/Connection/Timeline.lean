import LiveLog.Proofs.Connection.Traffic
import Mathlib.Data.List.Induction

/-! Traffic in virtual time. The clock is discrete. It moves by one, and only when every task waits, so
that nothing a task can do at a time is left for later, and a timer goes off at the very time it was set
to. Everything else takes no time. What does not fit the time has no effect; every list of happenings is
a run in this way.

A closed connection was aborted, where it waited or before it had begun, and its task is not run again.
Beside the traffic stands a chronicle of every connection, which nothing reads: when it asked for its
stream, when that failed, and when the records it took in had arrived. -/
namespace LiveLog

open Connection (Move TaskStep)

namespace Connection

/-- Whether the task of a connection takes a step at a time. That of a closed one only goes out of
service. Any other goes on by itself, and its timer goes off when its time has come. -/
def takes (now : Nat) (connection : Connection) : TaskStep → Bool
  | .proceed moment => !connection.closed && moment = now
  | .receive _ => !connection.closed
  | .wake => !connection.closed && connection.due?.any (· ≤ now)
  | .stop => connection.closed

theorem takes_proceed : takes now connection (.proceed moment) = true ↔
    connection.closed = false ∧ moment = now := by
  simp [takes]

theorem takes_receive : takes now connection (.receive signal) = true ↔
    connection.closed = false := by
  simp [takes]

theorem takes_wake : takes now connection .wake = true ↔
    connection.closed = false ∧ connection.due?.any (· ≤ now) = true := by
  rw [takes, Bool.and_eq_true, Bool.not_eq_true']

theorem takes_stop : takes now connection .stop = true ↔ connection.closed = true := Iff.rfl

/-- Whether the task of a connection has nothing to do at a time: it waits for its stream or for a later
time, or it was closed and is out of service. -/
def waits (now : Nat) (connection : Connection) : Bool :=
  match connection.stage with
  | .opening => !connection.closed
  | .reading deadline => !connection.closed && deadline.all (now < ·)
  | .resting wake => !connection.closed && now < wake
  | .stopped => connection.closed
  | _ => false

/-- An open connection waits for the answer to its request, or it reads or rests until a later time. -/
theorem waits_cases {connection : Connection} (opened : connection.closed = false)
    (waits : connection.waits now = true) :
    connection.stage = .opening ∨
      (∃ deadline, connection.stage = .reading deadline ∧ deadline.all (now < ·) = true) ∨
      ∃ wake, connection.stage = .resting wake ∧ now < wake := by
  cases stage : connection.stage with
  | opening => exact .inl rfl
  | reading deadline =>
    exact .inr (.inl ⟨deadline, rfl, by simpa [Connection.waits, stage, opened] using waits⟩)
  | resting wake =>
    exact .inr (.inr ⟨wake, rfl, by simpa [Connection.waits, stage, opened] using waits⟩)
  | _ => simp [Connection.waits, stage, opened] at waits

end Connection

/-- A raw record, and a time that belongs to it. -/
structure Stamped where
  time : Nat
  record : Json

/-- A request for a stream. -/
structure Attempt where
  url : String
  time : Nat
  deriving DecidableEq, Repr

/-- What was noted of a connection. -/
structure Chronicle where
  /-- The requests made for its stream. -/
  attempts : List Attempt := []
  /-- When a request, or the stream it had opened, failed. -/
  failures : List Nat := []
  /-- When the payload that was read last arrived. -/
  handedAt : Nat := 0
  /-- The raw records taken in, with the times at which their payloads arrived. -/
  arrivals : List Stamped := []

/-- The chronicle of a connection after a step of its task. -/
def Chronicle.after (connection : Connection) (now : Nat) (chronicle : Chronicle) :
    TaskStep → Chronicle
  | .proceed _ =>
    match connection.stage with
    | .starting => { chronicle with attempts := chronicle.attempts ++ [⟨connection.url, now⟩] }
    | .storing items _ =>
      if connection.closed then chronicle
      else { chronicle with arrivals := chronicle.arrivals ++ items.map (⟨chronicle.handedAt, ·⟩) }
    | _ => chronicle
  | .receive signal =>
    match connection.stage, signal with
    | .opening, .refused _ => { chronicle with failures := chronicle.failures ++ [now] }
    | .reading _, .broken _ => { chronicle with failures := chronicle.failures ++ [now] }
    | .reading _, .payload _ => { chronicle with handedAt := now }
    | _, _ => chronicle
  | .wake => chronicle
  | .stop => chronicle

/-- All connections of a host at a time, and what was noted of each. -/
structure Timeline where
  now : Nat
  traffic : Traffic
  chronicle : Nat → Chronicle

namespace Timeline

/-- What happens in virtual time. -/
inductive Happening where
  /-- Something happens among the connections, which takes no time. -/
  | act (act : Traffic.Act)
  /-- The clock moves. -/
  | tick

/-- A task takes a step, or the clock moves: the owner of the connections does nothing, nor does whoever
holds their channels. -/
def Happening.Unattended : Happening → Prop
  | .act (.task _ _) => True
  | .act _ => False
  | .tick => True

/-- The beginning. -/
def start (settings : StreamSettings) : Timeline := ⟨0, .start settings, fun _ => {}⟩

/-- Whether an act fits the time. -/
def admits (timeline : Timeline) : Traffic.Act → Bool
  | .connect _ _ moment => moment = timeline.now
  | .disconnect _ moment => moment = timeline.now
  | .task number step => timeline.traffic.table.all[number]?.any (·.takes timeline.now step)
  | .take _ => true

/-- Whether every task waits. -/
def waits (timeline : Timeline) : Bool :=
  timeline.traffic.table.all.all (·.waits timeline.now)

/-- What was noted after an act. A connection that was just made has an empty chronicle. -/
def noted (timeline : Timeline) : Traffic.Act → Nat → Chronicle
  | .connect _ _ _ => Function.update timeline.chronicle timeline.traffic.table.all.size {}
  | .task number step =>
    match timeline.traffic.table.all[number]? with
    | none => timeline.chronicle
    | some connection => Function.update timeline.chronicle number
        ((timeline.chronicle number).after connection timeline.now step)
  | _ => timeline.chronicle

/-- The connections after a happening. -/
def after (timeline : Timeline) : Happening → Timeline
  | .act act =>
    if timeline.admits act then ⟨timeline.now, timeline.traffic.after act, timeline.noted act⟩
    else timeline
  | .tick => if timeline.waits then { timeline with now := timeline.now + 1 } else timeline

/-- The connections after happenings in their order. -/
def run (timeline : Timeline) (happenings : List Happening) : Timeline :=
  happenings.foldl after timeline

variable {timeline : Timeline} {settings : StreamSettings} {id : String} {number : Nat}

theorem run_append (timeline : Timeline) (first second : List Happening) :
    timeline.run (first ++ second) = (timeline.run first).run second :=
  List.foldl_append

theorem run_concat (timeline : Timeline) (happenings : List Happening) (happening : Happening) :
    timeline.run (happenings ++ [happening]) = (timeline.run happenings).after happening :=
  List.foldl_append

theorem after_admitted (admitted : timeline.admits act = true) :
    timeline.after (.act act) = ⟨timeline.now, timeline.traffic.after act, timeline.noted act⟩ :=
  if_pos admitted

theorem after_tick (waiting : timeline.waits = true) :
    timeline.after .tick = { timeline with now := timeline.now + 1 } :=
  if_pos waiting

/-- A step that a task takes at the present is admitted. -/
theorem admits_task (timeline : Timeline)
    (present : timeline.traffic.table.all[number]? = some connection)
    (taken : connection.takes timeline.now step = true) :
    timeline.admits (.task number step) = true := by
  simpa [admits, present] using taken

/-- What a step of its task leaves in the chronicle of a connection. -/
theorem chronicle_task (present : timeline.traffic.table.all[number]? = some connection)
    (taken : connection.takes timeline.now step = true) :
    (timeline.after (.act (.task number step))).chronicle number =
      (timeline.chronicle number).after connection timeline.now step := by
  rw [after_admitted (timeline.admits_task present taken)]
  simp [noted, present]

/-! ### What holds of all timelines -/

/-- The acts of a timeline are traffic. -/
theorem orderly_after (orderly : timeline.traffic.Orderly) (happening : Happening) :
    (timeline.after happening).traffic.Orderly := by
  cases happening with
  | act act =>
    simp only [after]
    split
    · exact Traffic.orderly_after orderly act
    · exact orderly
  | tick =>
    simp only [after]
    split <;> exact orderly

theorem orderly_run (orderly : timeline.traffic.Orderly) (happenings : List Happening) :
    (timeline.run happenings).traffic.Orderly := by
  induction happenings generalizing timeline with
  | nil => exact orderly
  | cons happening happenings ih => exact ih (orderly_after orderly happening)

@[simp] theorem settings_after (timeline : Timeline) (happening : Happening) :
    (timeline.after happening).traffic.table.settings = timeline.traffic.table.settings := by
  cases happening with
  | act act =>
    simp only [after]
    split
    · exact Traffic.settings_after _ act
    · rfl
  | tick =>
    simp only [after]
    split <;> rfl

@[simp] theorem settings_run (timeline : Timeline) (happenings : List Happening) :
    (timeline.run happenings).traffic.table.settings = timeline.traffic.table.settings := by
  induction happenings generalizing timeline with
  | nil => rfl
  | cons happening happenings ih => exact (ih _).trans (settings_after timeline happening)

/-- A timeline that some happenings lead to. -/
def Reached (settings : StreamSettings) (timeline : Timeline) : Prop :=
  ∃ happenings, (start settings).run happenings = timeline

theorem Reached.run (reached : Reached settings timeline) (happenings : List Happening) :
    Reached settings (timeline.run happenings) := by
  obtain ⟨before, rfl⟩ := reached
  exact ⟨before ++ happenings, run_append _ before happenings⟩

theorem Reached.orderly (reached : Reached settings timeline) : timeline.traffic.Orderly := by
  obtain ⟨happenings, rfl⟩ := reached
  exact orderly_run (Traffic.start_orderly settings) happenings

/-- At all times a connection in use is open. -/
theorem Reached.usedOpen (reached : Reached settings timeline) : timeline.traffic.UsedOpen := by
  obtain ⟨happenings, rfl⟩ := reached
  induction happenings using List.reverseRecOn with
  | nil => exact fun id number watched used => nomatch used
  | append_singleton happenings happening ih =>
    have reached : Reached settings ((start settings).run happenings) := ⟨happenings, rfl⟩
    rw [run_concat]
    generalize (start settings).run happenings = timeline at ih reached
    cases happening with
    | act act =>
      simp only [after]
      split
      · exact Traffic.usedOpen_after reached.orderly ih act
      · exact ih
    | tick =>
      simp only [after]
      split <;> exact ih

theorem Reached.keeps_settings (reached : Reached settings timeline) :
    timeline.traffic.table.settings = settings := by
  obtain ⟨happenings, rfl⟩ := reached
  exact settings_run _ happenings

/-- Where every task waits, each of them does. -/
theorem waits_of_all (waiting : timeline.waits = true)
    (present : timeline.traffic.table.all[number]? = some connection) :
    connection.waits timeline.now = true :=
  Array.all_eq_true'.mp waiting connection (Array.mem_of_getElem? present)

/-! ### One connection in virtual time -/

/-- A property of a connection at a time, with its past and its chronicle, that its own task keeps. -/
structure KeptByTask (settings : StreamSettings) (Holds : Nat → Watched → Chronicle → Prop) :
    Prop where
  task : ∀ {now watched chronicle step}, Holds now watched chronicle →
    watched.connection.takes now step = true →
    Holds now (watched.after settings (.task step)) (chronicle.after watched.connection now step)
  tick : ∀ {now watched chronicle}, Holds now watched chronicle →
    watched.connection.waits now = true → Holds (now + 1) watched chronicle

/-- One that its owner keeps as well, and whoever holds its channel. -/
structure Kept (settings : StreamSettings) (Holds : Nat → Watched → Chronicle → Prop) : Prop
    extends KeptByTask settings Holds where
  close : ∀ {now watched chronicle}, Holds now watched chronicle →
    Holds now (watched.after settings (.close now)) chronicle
  take : ∀ {now watched chronicle}, Holds now watched chronicle →
    Holds now (watched.after settings .take) chronicle

/-- Two properties that are kept are kept together. -/
theorem KeptByTask.and (first : KeptByTask settings Holds) (second : KeptByTask settings Holds') :
    KeptByTask settings fun now watched chronicle =>
      Holds now watched chronicle ∧ Holds' now watched chronicle where
  task both taken := ⟨first.task both.1 taken, second.task both.2 taken⟩
  tick both waits := ⟨first.tick both.1 waits, second.tick both.2 waits⟩

/-- A connection that was made for an instance has a property now. -/
def Has (timeline : Timeline) (id : String) (number : Nat)
    (Holds : Nat → Watched → Chronicle → Prop) : Prop :=
  ∃ watched, timeline.traffic.Serves id number watched ∧
    Holds timeline.now watched (timeline.chronicle number)

variable {Holds : Nat → Watched → Chronicle → Prop}

private theorem noted_elsewhere (differs : other ≠ number) (step : TaskStep) :
    timeline.noted (.task other step) number = timeline.chronicle number := by
  cases present : timeline.traffic.table.all[other]? with
  | none => simp [noted, present]
  | some connection => simp [noted, present, Function.update_of_ne differs.symm]

/-- After an act a connection has what it has after the move asked of it. -/
private theorem has_after_act (admitted : timeline.admits act = true)
    (serves : timeline.traffic.Serves id number watched)
    (holds : Holds timeline.now
      ((Traffic.moveOf? id number act).elim watched (watched.after timeline.traffic.table.settings))
      (timeline.noted act number)) :
    (timeline.after (.act act)).Has id number Holds := by
  rw [after_admitted admitted]
  exact ⟨_, Traffic.serves_after serves act, holds⟩

/-- A step of any task leaves a connection what its own task keeps. -/
private theorem KeptByTask.after_task
    (kept : KeptByTask timeline.traffic.table.settings Holds)
    (has : timeline.Has id number Holds) (other : Nat) (step : TaskStep)
    (admitted : timeline.admits (.task other step) = true) :
    (timeline.after (.act (.task other step))).Has id number Holds := by
  obtain ⟨watched, serves, holds⟩ := has
  refine has_after_act admitted serves ?_
  by_cases same : other = number
  · subst same
    have present := Traffic.watched?_connection serves.present
    have taken : watched.connection.takes timeline.now step = true := by
      simpa [admits, present] using admitted
    simpa [Traffic.moveOf?, noted, present] using kept.task holds taken
  · simpa [Traffic.moveOf?, same, noted_elsewhere same] using holds

private theorem KeptByTask.after_tick
    (kept : KeptByTask timeline.traffic.table.settings Holds)
    (has : timeline.Has id number Holds) : (timeline.after .tick).Has id number Holds := by
  obtain ⟨watched, serves, holds⟩ := has
  simp only [after]
  split
  · rename_i waiting
    have present := Traffic.watched?_connection serves.present
    exact ⟨watched, serves, kept.tick holds (waits_of_all waiting present)⟩
  · exact ⟨watched, serves, holds⟩

/-- While nobody attends to the connections, each of them keeps what its own task keeps. -/
theorem KeptByTask.run (kept : KeptByTask settings Holds) (reached : Reached settings timeline)
    (has : timeline.Has id number Holds) {happenings : List Happening}
    (unattended : ∀ happening ∈ happenings, happening.Unattended) :
    (timeline.run happenings).Has id number Holds := by
  induction happenings generalizing timeline with
  | nil => exact has
  | cons happening happenings ih =>
    obtain ⟨alone, rest⟩ := List.forall_mem_cons.mp unattended
    refine ih (reached.run [happening]) ?_ rest
    have kept : KeptByTask timeline.traffic.table.settings Holds := by rwa [reached.keeps_settings]
    cases happening with
    | tick => exact kept.after_tick has
    | act act =>
      cases act with
      | task other step =>
        by_cases admitted : timeline.admits (.task other step) = true
        · exact kept.after_task has other step admitted
        · rw [Timeline.after, if_neg admitted]
          exact has
      | connect other url now => exact alone.elim
      | disconnect other now => exact alone.elim
      | take other => exact alone.elim

/-- Whatever happens among all connections in virtual time, each of them keeps what it keeps alone. -/
theorem Kept.after (kept : Kept timeline.traffic.table.settings Holds)
    (has : timeline.Has id number Holds) (happening : Happening) :
    (timeline.after happening).Has id number Holds := by
  cases happening with
  | tick => exact kept.toKeptByTask.after_tick has
  | act act =>
    by_cases admitted : timeline.admits act = true
    · obtain ⟨watched, serves, holds⟩ := has
      cases act with
      | task other step => exact kept.after_task ⟨watched, serves, holds⟩ other step admitted
      | connect other url moment =>
        obtain rfl : moment = timeline.now := of_decide_eq_true admitted
        refine has_after_act admitted serves ?_
        simp only [Traffic.moveOf?, noted, Function.update_of_ne (Nat.ne_of_lt serves.in_range)]
        split
        · exact kept.close holds
        · exact holds
      | disconnect other moment =>
        obtain rfl : moment = timeline.now := of_decide_eq_true admitted
        refine has_after_act admitted serves ?_
        simp only [Traffic.moveOf?, noted]
        split
        · exact kept.close holds
        · exact holds
      | take other =>
        refine has_after_act admitted serves ?_
        simp only [Traffic.moveOf?, noted]
        split
        · exact kept.take holds
        · exact holds
    · rw [Timeline.after, if_neg admitted]
      exact has

theorem Kept.run (kept : Kept settings Holds) (reached : Reached settings timeline)
    (has : timeline.Has id number Holds) (happenings : List Happening) :
    (timeline.run happenings).Has id number Holds := by
  induction happenings generalizing timeline with
  | nil => exact has
  | cons happening happenings ih =>
    have keeps : Kept timeline.traffic.table.settings Holds := by rwa [reached.keeps_settings]
    exact ih (reached.run [happening]) (keeps.after has happening)

/-- A connection is fresh when it is made, and nothing was noted of it. -/
theorem connected_has (orderly : timeline.traffic.Orderly) (id url : String)
    (holds : Holds timeline.now (.fresh url) {}) :
    (timeline.after (.act (.connect id url timeline.now))).Has id
      timeline.traffic.table.all.size Holds := by
  have serves := Traffic.placed_serves
    (Traffic.orderly_after orderly (.disconnect id timeline.now))
    (Traffic.disconnected timeline.traffic id timeline.now) url
  rw [← Traffic.after_connect] at serves
  have size : (timeline.traffic.after (.disconnect id timeline.now)).table.all.size =
      timeline.traffic.table.all.size := timeline.traffic.table.size_disconnect id timeline.now
  rw [size] at serves
  rw [after_admitted (by simp [admits])]
  refine ⟨_, serves, ?_⟩
  simpa [noted] using holds

/-- Every connection ever made has a property now. -/
def AllHave (timeline : Timeline) (Holds : Nat → Watched → Chronicle → Prop) : Prop :=
  ∀ number < timeline.traffic.table.all.size, ∃ id, timeline.Has id number Holds

/-- A happening makes one connection at most, and it is the next one. -/
private theorem made_by_connect (timeline : Timeline) (happening : Happening)
    (made : number < (timeline.after happening).traffic.table.all.size) :
    number < timeline.traffic.table.all.size ∨ number = timeline.traffic.table.all.size ∧
      ∃ id url, happening = .act (.connect id url timeline.now) := by
  cases happening with
  | tick =>
    simp only [after] at made
    split at made <;> exact .inl made
  | act act =>
    by_cases admitted : timeline.admits act = true
    · rw [after_admitted admitted] at made
      cases act with
      | connect id url moment =>
        obtain rfl : moment = timeline.now := of_decide_eq_true admitted
        rw [Traffic.size_connect] at made
        rcases Nat.lt_succ_iff_lt_or_eq.mp made with before | new
        · exact .inl before
        · exact .inr ⟨new, id, url, rfl⟩
      | disconnect id moment => exact .inl (by simpa [Traffic.after] using made)
      | task other step =>
        exact .inl (by simpa [Traffic.after, Traffic.moved, Connections.modify] using made)
      | take other =>
        exact .inl (by simpa [Traffic.after, Connections.take, Connections.modify] using made)
    · rw [after, if_neg admitted] at made
      exact .inl made

/-- What is true of a fresh connection and kept is true of every connection, at all times. -/
theorem Kept.allHave (kept : Kept settings Holds) (fresh : ∀ url now, Holds now (.fresh url) {})
    (reached : Reached settings timeline) : timeline.AllHave Holds := by
  obtain ⟨happenings, rfl⟩ := reached
  induction happenings using List.reverseRecOn with
  | nil => exact fun number made => absurd made (Nat.not_lt_zero number)
  | append_singleton happenings happening ih =>
    have reached : Reached settings ((start settings).run happenings) := ⟨happenings, rfl⟩
    rw [run_concat]
    generalize (start settings).run happenings = timeline at ih reached
    have keeps : Kept timeline.traffic.table.settings Holds := by rwa [reached.keeps_settings]
    intro number made
    rcases made_by_connect timeline happening made with before | ⟨rfl, id, url, rfl⟩
    · obtain ⟨id, has⟩ := ih number before
      exact ⟨id, keeps.after has happening⟩
    · exact ⟨id, connected_has reached.orderly id url (fresh url _)⟩

end Timeline
end LiveLog
