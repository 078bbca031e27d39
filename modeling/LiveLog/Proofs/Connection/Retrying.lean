import LiveLog.Proofs.Connection.Delivery
import LiveLog.Proofs.Connection.Waiting

/-! A connection asks for its stream when it is made, and again a fixed delay after every failure, until
it is closed. A failure is that of a request, or of the stream it opened, so that there is one failure
between any two requests. From the failure to the next request the task knows when that is due, and the
clock does not pass a time that somebody waits for. -/
namespace LiveLog

open Connection (TaskStep)

/-- When requests are due: when the connection is made, and the delay after every failure. -/
def Chronicle.dues (delay since : Nat) (chronicle : Chronicle) : List Nat :=
  since :: chronicle.failures.map (· + delay)

/-- When the requests were made. -/
def Chronicle.times (chronicle : Chronicle) : List Nat :=
  chronicle.attempts.map (·.time)

/-- How the times of the requests made compare with those due, where a connection stands that is open.
It is about to make one that is due now; or has made all, and none has failed since; or has seen a
failure, which makes one due after the delay. -/
def Owing (delay now : Nat) (times dues : List Nat) : Stage → Prop
  | .starting => times ++ [now] = dues
  | .ending _ => times ++ [now + delay] = dues
  | .failing _ => times ++ [now + delay] = dues
  | .reporting _ _ => times ++ [now + delay] = dues
  | .resting wake => times ++ [wake] = dues ∧ now ≤ wake
  | .stopped => False
  | _ => times = dues

/-- The requests noted of a connection that was made at a time for an address, and their failures. -/
structure Requests (delay since : Nat) (url : String) (now : Nat) (chronicle : Chronicle) : Prop where
  same_address : ∀ attempt ∈ chronicle.attempts, attempt.url = url
  on_time : chronicle.times <+: chronicle.dues delay since
  counted : chronicle.failures.length ≤ chronicle.attempts.length
  made : ∀ attempt ∈ chronicle.attempts, attempt.time ≤ now
  failed_after : ∀ (index : Nat) (attempt : Attempt) (failure : Nat),
    chronicle.attempts[index]? = some attempt → chronicle.failures[index]? = some failure →
    attempt.time ≤ failure

namespace Requests

variable {delay since now : Nat} {url : String} {chronicle : Chronicle}

/-- A request that is made when it is due is the last of those due. -/
theorem asked (requests : Requests delay since url now chronicle)
    (due : chronicle.times ++ [now] = chronicle.dues delay since) :
    Requests delay since url now
      { chronicle with attempts := chronicle.attempts ++ [⟨url, now⟩] } where
  same_address := by
    intro attempt member
    rcases List.mem_append.mp member with before | new
    · exact requests.same_address attempt before
    · rw [List.mem_singleton.mp new]
  on_time := by
    have all : Chronicle.times { chronicle with attempts := chronicle.attempts ++ [⟨url, now⟩] } =
        chronicle.dues delay since := by
      rw [← due]
      exact List.map_append
    rw [all]
    exact List.prefix_refl _
  counted := by
    rw [List.length_append]
    exact Nat.le_add_right_of_le requests.counted
  made := by
    intro attempt member
    rcases List.mem_append.mp member with before | new
    · exact requests.made attempt before
    · exact Nat.le_of_eq (congrArg Attempt.time (List.mem_singleton.mp new))
  failed_after := by
    have many : chronicle.attempts.length = chronicle.failures.length := by
      simpa [Chronicle.times, Chronicle.dues] using congrArg List.length due
    intro index attempt failure made failed
    have before : index < chronicle.failures.length := (List.getElem?_eq_some_iff.mp failed).1
    rw [List.getElem?_append_left (many ▸ before)] at made
    exact requests.failed_after index attempt failure made failed

/-- When every request due was made, a failure makes one more due, after the delay. -/
theorem failed_dues (all : chronicle.times = chronicle.dues delay since) :
    chronicle.times ++ [now + delay] =
      Chronicle.dues delay since { chronicle with failures := chronicle.failures ++ [now] } := by
  rw [all]
  simp [Chronicle.dues]

theorem failed (requests : Requests delay since url now chronicle)
    (all : chronicle.times = chronicle.dues delay since) :
    Requests delay since url now { chronicle with failures := chronicle.failures ++ [now] } where
  same_address := requests.same_address
  on_time := by
    rw [← failed_dues all]
    exact List.prefix_append _ _
  counted := by
    have many : chronicle.attempts.length = chronicle.failures.length + 1 := by
      simpa [Chronicle.times, Chronicle.dues] using congrArg List.length all
    simp [many]
  made := requests.made
  failed_after := by
    intro index attempt failure made failed
    by_cases before : index < chronicle.failures.length
    · rw [List.getElem?_append_left before] at failed
      exact requests.failed_after index attempt failure made failed
    · rw [List.getElem?_append_right (Nat.le_of_not_lt before)] at failed
      rw [List.mem_singleton.mp (List.mem_of_getElem? failed)]
      exact requests.made attempt (List.mem_of_getElem? made)

/-- What is noted of arrivals does not matter to them. -/
theorem untouched (requests : Requests delay since url now chronicle)
    (attempts : next.attempts = chronicle.attempts) (failures : next.failures = chronicle.failures) :
    Requests delay since url now next where
  same_address := by rw [attempts]; exact requests.same_address
  on_time := by
    rw [Chronicle.times, Chronicle.dues, attempts, failures]
    exact requests.on_time
  counted := by rw [attempts, failures]; exact requests.counted
  made := by rw [attempts]; exact requests.made
  failed_after := by rw [attempts, failures]; exact requests.failed_after

theorem ticked (requests : Requests delay since url now chronicle) :
    Requests delay since url (now + 1) chronicle :=
  { requests with made := fun attempt member => Nat.le_succ_of_le (requests.made attempt member) }

end Requests

/-- A connection that was made at a time for an address, with the requests noted of it. -/
structure Paced (delay since : Nat) (url : String) (now : Nat) (watched : Watched)
    (chronicle : Chronicle) : Prop where
  address : watched.connection.url = url
  requests : Requests delay since url now chronicle
  owing : watched.connection.closed = false →
    Owing delay now chronicle.times (chronicle.dues delay since) watched.connection.stage

section Steps

variable {settings : StreamSettings} {delay since now : Nat} {url : String} {watched : Watched}
  {chronicle : Chronicle}

private theorem owing_proceed {connection : Connection} (opened : connection.closed = false)
    (address : connection.url = url)
    (requests : Requests settings.retryDelay since url now chronicle)
    (owing : Owing settings.retryDelay now chronicle.times (chronicle.dues settings.retryDelay since)
      connection.stage) :
    let next := chronicle.after connection now (.proceed now)
    Requests settings.retryDelay since url now next ∧
      Owing settings.retryDelay now next.times (next.dues settings.retryDelay since)
        (connection.proceed settings now).stage := by
  cases stage : connection.stage with
  | starting =>
    rw [stage] at owing
    simp only [Chronicle.after, Connection.proceed, stage, address]
    exact ⟨requests.asked owing, List.map_append.trans owing⟩
  | reporting cause attempt =>
    rw [stage] at owing
    simp only [Chronicle.after, Connection.proceed, Connection.emit, stage, opened]
    exact ⟨requests, owing, Nat.le_add_right now _⟩
  | storing items deadline =>
    rw [stage] at owing
    simp only [Chronicle.after, Connection.proceed, stage, opened]
    exact ⟨requests.untouched rfl rfl, owing⟩
  | _ =>
    rw [stage] at owing
    simp only [Chronicle.after, Connection.proceed, Connection.emit, stage, opened]
    exact ⟨requests, owing⟩

private theorem owing_receive {connection : Connection}
    (requests : Requests delay since url now chronicle)
    (owing : Owing delay now chronicle.times (chronicle.dues delay since) connection.stage)
    (signal : Signal) :
    let next := chronicle.after connection now (.receive signal)
    Requests delay since url now next ∧
      Owing delay now next.times (next.dues delay since) (connection.receive signal).stage := by
  cases stage : connection.stage with
  | opening =>
    rw [stage] at owing
    cases signal with
    | refused error =>
      simp only [Chronicle.after, Connection.receive, stage]
      exact ⟨requests.failed owing, Requests.failed_dues owing⟩
    | accepted =>
      simp only [Chronicle.after, Connection.receive, stage]
      exact ⟨requests, owing⟩
    | _ =>
      simp only [Chronicle.after, Connection.receive, stage]
      exact ⟨requests, owing⟩
  | reading deadline =>
    rw [stage] at owing
    cases signal with
    | broken error =>
      simp only [Chronicle.after, Connection.receive, stage]
      exact ⟨requests.failed owing, Requests.failed_dues owing⟩
    | payload text =>
      rw [Connection.receive_payload stage]
      simp only [Chronicle.after, stage]
      refine ⟨requests.untouched rfl rfl, ?_⟩
      split
      · rw [stage]
        exact owing
      · exact owing
    | _ =>
      simp only [Chronicle.after, Connection.receive, stage]
      exact ⟨requests, owing⟩
  | _ =>
    rw [stage] at owing
    simp only [Chronicle.after, Connection.receive, stage]
    exact ⟨requests, owing⟩

private theorem owing_wake {connection : Connection} (due : connection.due?.any (· ≤ now) = true)
    (owing : Owing delay now times dues connection.stage) :
    Owing delay now times dues connection.wake.stage := by
  cases stage : connection.stage with
  | reading deadline =>
    rw [stage] at owing
    cases deadline with
    | none => simpa only [Connection.wake, stage] using owing
    | some time =>
      simp only [Connection.wake, stage]
      exact owing
  | resting wake =>
    rw [stage] at owing
    obtain ⟨owed, ahead⟩ := owing
    have reached : wake ≤ now := by simpa [Connection.due?, stage] using due
    obtain rfl : wake = now := Nat.le_antisymm reached ahead
    simp only [Connection.wake, stage]
    exact owed
  | _ => simpa only [Connection.wake, stage] using owing

private theorem owing_tick {connection : Connection} (opened : connection.closed = false)
    (waits : connection.waits now = true) (owing : Owing delay now times dues connection.stage) :
    Owing delay (now + 1) times dues connection.stage := by
  rcases Connection.waits_cases opened waits with stage | ⟨deadline, stage, -⟩ | ⟨wake, stage, ahead⟩
  · rw [stage] at owing ⊢
    exact owing
  · rw [stage] at owing ⊢
    exact owing
  · rw [stage] at owing ⊢
    exact ⟨owing.1, ahead⟩

/-- A connection keeps pace, whatever happens to it. -/
theorem paced_kept (settings : StreamSettings) (since : Nat) (url : String) :
    Timeline.Kept settings (Paced settings.retryDelay since url) where
  task := by
    intro now watched chronicle step paced taken
    have address : (watched.after settings (.task step)).connection.url = url :=
      (Connection.step_keeps_url settings step).trans paced.address
    cases step with
    | proceed moment =>
      obtain ⟨opened, rfl⟩ := Connection.takes_proceed.mp taken
      obtain ⟨requests, owing⟩ :=
        owing_proceed opened paced.address paced.requests (paced.owing opened)
      exact ⟨address, requests, fun _ => owing⟩
    | receive signal =>
      have opened := Connection.takes_receive.mp taken
      obtain ⟨requests, owing⟩ := owing_receive paced.requests (paced.owing opened) signal
      exact ⟨address, requests, fun _ => owing⟩
    | wake =>
      obtain ⟨opened, due⟩ := Connection.takes_wake.mp taken
      exact ⟨address, paced.requests, fun _ => owing_wake due (paced.owing opened)⟩
    | stop =>
      have closed := Connection.takes_stop.mp taken
      exact ⟨address, paced.requests, fun opened => Bool.noConfusion (closed.symm.trans opened)⟩
  tick paced waits :=
    ⟨paced.address, paced.requests.ticked, fun opened => owing_tick opened waits (paced.owing opened)⟩
  close := by
    intro now watched chronicle paced
    have address : (watched.connection.close now).url = watched.connection.url := by
      simp only [Connection.close, Connection.flush]
      split <;> rfl
    exact ⟨address.trans paced.address, paced.requests, fun opened => Bool.noConfusion opened⟩
  take paced := ⟨paced.address, paced.requests, paced.owing⟩

theorem fresh_paced (delay now : Nat) (url : String) :
    Paced delay now url now (.fresh url) {} where
  address := rfl
  requests := ⟨nofun, List.nil_prefix, Nat.le_refl 0, nofun, nofun⟩
  owing _ := rfl

end Steps

/-! ### Requests are made when they are due -/

/-- What holds at any time of the requests a connection makes that was made for an address. -/
structure Retries (delay since : Nat) (url : String) (now : Nat) (watched : Watched)
    (chronicle : Chronicle) : Prop extends Requests delay since url now chronicle where
  /-- One request at most has not failed yet, neither itself nor through its stream, -/
  one_at_a_time : chronicle.attempts.length ≤ chronicle.failures.length + 1
  /-- and none, where the next is about to be made. -/
  free : watched.connection.closed = false → watched.connection.stage = .starting →
    chronicle.attempts.length = chronicle.failures.length
  /-- While a connection waits, every request was made whose time has come. -/
  none_overdue : watched.connection.closed = false → watched.connection.waits now = true →
    ∀ (index due : Nat), (chronicle.dues delay since)[index]? = some due → due ≤ now →
      ∃ attempt, chronicle.attempts[index]? = some attempt ∧ attempt.time = due

theorem dues_length (delay since : Nat) (chronicle : Chronicle) :
    (chronicle.dues delay since).length = chronicle.failures.length + 1 := by
  simp [Chronicle.dues]

theorem times_length (chronicle : Chronicle) : chronicle.times.length = chronicle.attempts.length :=
  List.length_map _

/-- What is promised of requests is part of keeping pace. -/
theorem retries_of_paced {watched : Watched} (paced : Paced delay since url now watched chronicle) :
    Retries delay since url now watched chronicle where
  toRequests := paced.requests
  one_at_a_time := by
    have shorter := paced.requests.on_time.length_le
    rwa [dues_length, times_length] at shorter
  free opened starting := by
    have owing := paced.owing opened
    rw [starting] at owing
    have lengths := congrArg List.length owing
    rw [dues_length, List.length_append, times_length] at lengths
    exact Nat.succ.inj lengths
  none_overdue := by
    intro opened waits index due found reached
    have owing := paced.owing opened
    have inTimes : chronicle.times[index]? = some due := by
      rcases Connection.waits_cases opened waits with stage | ⟨deadline, stage, -⟩ | ⟨wake, stage, ahead⟩
      · rw [stage] at owing
        exact (congrArg (·[index]?) owing).trans found
      · rw [stage] at owing
        exact (congrArg (·[index]?) owing).trans found
      · rw [stage] at owing
        rw [← owing.1] at found
        by_cases before : index < chronicle.times.length
        · rwa [List.getElem?_append_left before] at found
        · rw [List.getElem?_append_right (Nat.le_of_not_lt before)] at found
          have last : due = wake := List.mem_singleton.mp (List.mem_of_getElem? found)
          omega
    rw [Chronicle.times, List.getElem?_map] at inTimes
    exact Option.map_eq_some_iff.mp inTimes

/-- A later chronicle of the same connection: nothing that was noted of its requests is lost. -/
structure Chronicle.Goes (chronicle later : Chronicle) : Prop where
  attempts : chronicle.attempts <+: later.attempts
  failures : chronicle.failures <+: later.failures

theorem Chronicle.goes_after (chronicle : Chronicle) (connection : Connection) (now : Nat)
    (step : TaskStep) : chronicle.Goes (chronicle.after connection now step) := by
  cases step with
  | proceed moment =>
    simp only [after]
    split
    · exact ⟨List.prefix_append _ _, List.prefix_refl _⟩
    · split <;> exact ⟨List.prefix_refl _, List.prefix_refl _⟩
    · exact ⟨List.prefix_refl _, List.prefix_refl _⟩
  | receive signal =>
    simp only [after]
    split
    · exact ⟨List.prefix_refl _, List.prefix_append _ _⟩
    · exact ⟨List.prefix_refl _, List.prefix_append _ _⟩
    · exact ⟨List.prefix_refl _, List.prefix_refl _⟩
    · exact ⟨List.prefix_refl _, List.prefix_refl _⟩
  | wake => exact ⟨List.prefix_refl _, List.prefix_refl _⟩
  | stop => exact ⟨List.prefix_refl _, List.prefix_refl _⟩

namespace Timeline

variable {timeline : Timeline} {settings : StreamSettings} {since number : Nat} {id url : String}

private theorem goes_kept (settings : StreamSettings) (chronicle : Chronicle) :
    KeptByTask settings fun _ _ later => chronicle.Goes later where
  task := by
    intro now watched later step goes taken
    have further := later.goes_after watched.connection now step
    exact ⟨goes.attempts.trans further.attempts, goes.failures.trans further.failures⟩
  tick goes _ := goes

/-- An open connection that keeps pace. -/
def Going (settings : StreamSettings) (since : Nat) (url : String) (now : Nat) (watched : Watched)
    (chronicle : Chronicle) : Prop :=
  Paced settings.retryDelay since url now watched chronicle ∧ watched.connection.closed = false

private theorem going_kept (settings : StreamSettings) (since : Nat) (url : String) :
    KeptByTask settings (Going settings since url) :=
  (paced_kept settings since url).toKeptByTask.and
    { task := fun opened _ => (Connection.step_keeps_closed settings _).trans opened
      tick := fun opened _ => opened }

/-- Left alone, an open connection keeps pace, and loses nothing that was noted. -/
private theorem Reached.goes_on (reached : Reached settings timeline)
    (going : timeline.Has id number (Going settings since url)) {more : List Happening}
    (unattended : ∀ happening ∈ more, happening.Unattended) :
    (timeline.run more).Has id number (Going settings since url) ∧
      (timeline.chronicle number).Goes ((timeline.run more).chronicle number) := by
  obtain ⟨watched, serves, holds⟩ := going
  have kept := (going_kept settings since url).and (goes_kept settings (timeline.chronicle number))
  obtain ⟨later, serves, holds, goes⟩ := kept.run reached
    ⟨watched, serves, holds, List.prefix_refl _, List.prefix_refl _⟩ unattended
  exact ⟨⟨later, serves, holds⟩, goes⟩

/-- A request that is due comes to be made. -/
private theorem Reached.request_comes (reached : Reached settings timeline)
    (going : timeline.Has id number (Going settings since url)) {index due : Nat}
    (found : ((timeline.chronicle number).dues settings.retryDelay since)[index]? = some due) :
    ∃ more : List Happening, (∀ happening ∈ more, happening.Unattended) ∧
      ∃ attempt, ((timeline.run more).chronicle number).attempts[index]? = some attempt ∧
        attempt.time = due := by
  obtain ⟨more, unattended, time, waiting⟩ := reached.reaches_time (due - timeline.now)
  obtain ⟨⟨watched, serves, paced, opened⟩, goes⟩ := reached.goes_on going unattended
  refine ⟨more, unattended, (retries_of_paced paced).none_overdue opened ?_ index due ?_ (by omega)⟩
  · exact waits_of_all waiting (Traffic.watched?_connection serves.present)
  · obtain ⟨further, later⟩ := goes.failures
    have inRange := (List.getElem?_eq_some_iff.mp found).1
    rw [Chronicle.dues, ← later, List.map_append, ← List.cons_append,
      List.getElem?_append_left (by simpa [Chronicle.dues] using inRange)]
    exact found

/-- The last request, or the stream it opened, can fail. -/
private theorem Reached.failure_comes (reached : Reached settings timeline)
    (going : timeline.Has id number (Going settings since url)) :
    ∃ more : List Happening, (∀ happening ∈ more, happening.Unattended) ∧
      (timeline.chronicle number).attempts.length ≤
        ((timeline.run more).chronicle number).failures.length := by
  obtain ⟨more, unattended, atOnce, waiting⟩ := reached.comes_to_wait
  obtain ⟨⟨watched, serves, paced, opened⟩, goes⟩ := reached.goes_on going unattended
  have present := Traffic.watched?_connection serves.present
  have waits := waits_of_all waiting present
  have grown := goes.attempts.length_le
  have single := (retries_of_paced paced).one_at_a_time
  -- A signal that breaks off what the connection waits for is noted as a failure.
  have fails (signal : Signal)
      (noted : ∀ chronicle : Chronicle,
        (chronicle.after watched.connection (timeline.run more).now (.receive signal)).failures =
          chronicle.failures ++ [(timeline.run more).now]) :
      (timeline.chronicle number).attempts.length ≤
        ((timeline.run (more ++ [.act (.task number (.receive signal))])).chronicle
          number).failures.length := by
    rw [run_concat, chronicle_task present (Connection.takes_receive.mpr opened), noted,
      List.length_append, List.length_singleton]
    exact Nat.le_trans grown single
  have unattendedToo (signal : Signal) : ∀ happening ∈
      more ++ [Happening.act (.task number (.receive signal))], happening.Unattended := by
    simpa [or_imp, forall_and, Happening.Unattended] using unattended
  rcases Connection.waits_cases opened waits with stage | ⟨deadline, stage, -⟩ | ⟨wake, stage, -⟩
  · exact ⟨_, unattendedToo (.refused .closed), fails _ fun _ => by simp [Chronicle.after, stage]⟩
  · exact ⟨_, unattendedToo (.broken .closed), fails _ fun _ => by simp [Chronicle.after, stage]⟩
  · have owing := paced.owing opened
    rw [stage] at owing
    have lengths := congrArg List.length owing.1
    rw [dues_length, List.length_append, times_length] at lengths
    exact ⟨more, unattended, Nat.le_trans grown (Nat.le_of_eq (Nat.succ.inj lengths))⟩

/-- There is no last request: after any number of them the next one fails, and another is made. -/
private theorem Reached.uncapped (reached : Reached settings timeline)
    (going : timeline.Has id number (Going settings since url)) (count : Nat) :
    ∃ more : List Happening, (∀ happening ∈ more, happening.Unattended) ∧
      count ≤ ((timeline.run more).chronicle number).attempts.length := by
  induction count with
  | zero => exact ⟨[], by simp, Nat.zero_le _⟩
  | succ count ih =>
    obtain ⟨more, unattended, many⟩ := ih
    have reachedMore := reached.run more
    have goingMore := (reached.goes_on going unattended).1
    obtain ⟨failing, unattendedToo, failed⟩ := reachedMore.failure_comes goingMore
    have goingFailed := (reachedMore.goes_on goingMore unattendedToo).1
    have inRange : count < ((((timeline.run more).run failing).chronicle number).dues
        settings.retryDelay since).length := by
      rw [dues_length]
      exact Nat.lt_succ_of_le (Nat.le_trans many failed)
    obtain ⟨asking, unattendedLast, attempt, made, -⟩ :=
      (reachedMore.run failing).request_comes goingFailed (List.getElem?_eq_getElem inRange)
    refine ⟨more ++ (failing ++ asking), ?_, ?_⟩
    · simp only [List.mem_append]
      rintro happening (first | second | third)
      · exact unattended happening first
      · exact unattendedToo happening second
      · exact unattendedLast happening third
    · rw [run_append, run_append]
      exact (List.getElem?_eq_some_iff.mp made).1

/-- A closed connection makes no request. -/
private theorem silent_kept (settings : StreamSettings) (chronicle : Chronicle) :
    Kept settings fun _ watched later => watched.connection.closed = true ∧ later = chronicle where
  task := by
    intro now watched later step silent taken
    obtain ⟨closed, rfl⟩ := silent
    refine ⟨(Connection.step_keeps_closed settings step).trans closed, ?_⟩
    cases step with
    | stop => rfl
    | _ => simp [Connection.takes, closed] at taken
  tick silent _ := silent
  close silent := ⟨rfl, silent.2⟩
  take silent := silent

/-- Once an instance is disconnected, or connected anew, nothing more is noted of a connection that was
made for it. -/
private theorem Reached.ceases (reached : Reached settings timeline)
    (serves : timeline.traffic.Serves id number watched) {act : Traffic.Act}
    (closes : act = .disconnect id timeline.now ∨ ∃ other, act = .connect id other timeline.now)
    (more : List Happening) :
    ((timeline.after (.act act)).run more).chronicle number = timeline.chronicle number := by
  have silent : (timeline.after (.act act)).Has id number fun _ watched later =>
      watched.connection.closed = true ∧ later = timeline.chronicle number := by
    have served := Traffic.serves_after serves act
    have apart := Nat.ne_of_lt serves.in_range
    rcases closes with rfl | ⟨other, rfl⟩
    · rw [after_admitted (by simp [admits])]
      exact ⟨_, served, by simp [Traffic.moveOf?, Watched.after, Connection.after, Connection.close],
        rfl⟩
    · rw [after_admitted (by simp [admits])]
      exact ⟨_, served, by simp [Traffic.moveOf?, Watched.after, Connection.after, Connection.close],
        Function.update_of_ne apart _ _⟩
  obtain ⟨later, -, -, same⟩ :=
    (silent_kept settings (timeline.chronicle number)).run (reached.run [.act act]) silent more
  exact same

/-- The requests of a connection that was made for an instance, from then on. -/
structure KeepsAsking (timeline : Timeline) (id : String) (number delay since : Nat) (url : String) :
    Prop where
  retries : timeline.Has id number (Retries delay since url)
  /-- A connection in use is open. -/
  in_use : timeline.traffic.table.number? id = some number →
    ∃ connection, timeline.traffic.table.all[number]? = some connection ∧ connection.closed = false
  /-- While it is in use, every request that is due is made, -/
  request_comes : timeline.traffic.table.number? id = some number → ∀ (index due : Nat),
    ((timeline.chronicle number).dues delay since)[index]? = some due →
    ∃ more : List Happening, (∀ happening ∈ more, happening.Unattended) ∧
      ∃ attempt, ((timeline.run more).chronicle number).attempts[index]? = some attempt ∧
        attempt.time = due
  /-- and their number has no bound. -/
  uncapped : timeline.traffic.table.number? id = some number → ∀ count,
    ∃ more : List Happening, (∀ happening ∈ more, happening.Unattended) ∧
      count ≤ ((timeline.run more).chronicle number).attempts.length
  /-- After its instance was disconnected, or connected anew, none is made. -/
  ceases : ∀ act, (act = .disconnect id timeline.now ∨ ∃ other, act = .connect id other timeline.now) →
    ∀ more, (((timeline.after (.act act)).run more).chronicle number).attempts =
      (timeline.chronicle number).attempts

/-- Whatever was done before an instance is connected, and whatever happens after it: its connection asks
for its stream at once, and again a fixed delay after every failure, one request at a time and always at
one address, without end, until the instance is disconnected. -/
theorem requests_follow_failures_after_delay (settings : StreamSettings) (before : List Happening)
    (id url : String) (later : List Happening) :
    let made := (start settings).run before
    let timeline := (made.after (.act (.connect id url made.now))).run later
    timeline.KeepsAsking id made.traffic.table.all.size settings.retryDelay made.now url := by
  intro made timeline
  have reachedMade : Reached settings made := ⟨before, rfl⟩
  have reached : Reached settings timeline :=
    (reachedMade.run [.act (.connect id url made.now)]).run later
  obtain ⟨watched, serves, paced⟩ := (paced_kept settings made.now url).run
    (reachedMade.run [.act (.connect id url made.now)])
    (connected_has reachedMade.orderly id url (fresh_paced settings.retryDelay made.now url)) later
  have opened (used : timeline.traffic.table.number? id = some made.traffic.table.all.size) :
      watched.connection.closed = false :=
    reached.usedOpen id _ watched used serves.present
  refine ⟨⟨watched, serves, retries_of_paced paced⟩, fun used => ?_, fun used index due => ?_,
    fun used => ?_, fun act closes more => ?_⟩
  · exact ⟨_, Traffic.watched?_connection serves.present, opened used⟩
  · exact reached.request_comes ⟨watched, serves, paced, opened used⟩
  · exact reached.uncapped ⟨watched, serves, paced, opened used⟩
  · rw [reached.ceases serves closes more]

end Timeline
end LiveLog
