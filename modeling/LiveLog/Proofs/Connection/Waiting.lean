import LiveLog.Proofs.Connection.Timeline
import Mathlib.Logic.Relation

/-! Everything comes to wait. A task goes through a few stages at most before it waits for its stream or
for a later time, so that all tasks wait after finitely many steps that take no time, and the clock can
always move on. Virtual time reaches every later moment without the owner of the connections. -/
namespace LiveLog

open Connection (TaskStep)

namespace Connection

/-- Only a closed connection is out of service. -/
def InService (connection : Connection) : Prop :=
  connection.closed = false → connection.stage ≠ .stopped

variable {connection : Connection} {settings : StreamSettings} {now : Nat}

/-- A step that a task takes at a time leaves an open connection in service. -/
theorem inService_step (inService : connection.InService) {step : TaskStep}
    (taken : connection.takes now step = true) :
    (connection.afterStep settings step).InService := by
  intro opened
  rw [step_keeps_closed] at opened
  have running := inService opened
  cases step with
  | proceed moment =>
    intro stopped
    cases stage : connection.stage <;>
      simp [afterStep, proceed, stage, emit, opened] at stopped running
  | receive signal =>
    intro stopped
    simp only [afterStep, receive] at stopped
    split at stopped
    · cases stopped
    · cases stopped
    · split at stopped
      · exact running stopped
      · exact running stopped
      · cases stopped
    · cases stopped
    · exact running stopped
  | wake =>
    intro stopped
    simp only [afterStep, wake] at stopped
    split at stopped
    · cases stopped
    · cases stopped
    · exact running stopped
  | stop => simp [takes, opened] at taken

/-! ### One task -/

/-- Steps that the task of a connection takes at a time lead from one state to another. -/
def Reaches (settings : StreamSettings) (now : Nat) : Connection → Connection → Prop :=
  Relation.ReflTransGen fun connection next =>
    ∃ step, connection.takes now step = true ∧ connection.afterStep settings step = next

/-- They neither open nor close it. -/
theorem Reaches.closed {later : Connection} (reaches : Reaches settings now connection later) :
    later.closed = connection.closed := by
  induction reaches with
  | refl => rfl
  | tail before last ih =>
    obtain ⟨step, taken, rfl⟩ := last
    exact (step_keeps_closed settings step).trans ih

/-- A task can take steps at a time until it waits. -/
def Settles (settings : StreamSettings) (now : Nat) (connection : Connection) : Prop :=
  ∃ later, Reaches settings now connection later ∧ later.waits now = true

theorem Settles.waits (waiting : connection.waits now = true) : Settles settings now connection :=
  ⟨connection, .refl, waiting⟩

theorem Settles.step (step : TaskStep) (taken : connection.takes now step = true)
    (rest : Settles settings now (connection.afterStep settings step)) :
    Settles settings now connection := by
  obtain ⟨later, reaches, waiting⟩ := rest
  exact ⟨later, .head ⟨step, taken, rfl⟩ reaches, waiting⟩

private theorem settles_proceed (opened : connection.closed = false)
    (rest : Settles settings now (connection.proceed settings now)) :
    Settles settings now connection :=
  .step (.proceed now) (takes_proceed.mpr ⟨opened, rfl⟩) rest

private theorem settles_wake (opened : connection.closed = false)
    (due : connection.due? = some moment) (reached : moment ≤ now)
    (rest : Settles settings now connection.wake) : Settles settings now connection :=
  .step .wake (takes_wake.mpr ⟨opened, by simp [due, reached]⟩) rest

private theorem settles_idle (opened : connection.closed = false)
    (stage : connection.stage = .reading none) : Settles settings now connection :=
  .waits (by simp [waits, stage, opened])

private theorem settles_flushing (opened : connection.closed = false)
    (stage : connection.stage = .flushing) : Settles settings now connection := by
  refine settles_proceed opened (settles_idle ?_ ?_)
  · rw [proceed_keeps_closed, opened]
  · simp [proceed, stage]

private theorem settles_reading (opened : connection.closed = false)
    (stage : connection.stage = .reading deadline) : Settles settings now connection := by
  cases deadline with
  | none => exact settles_idle opened stage
  | some due =>
    by_cases later : now < due
    · exact .waits (by simp [waits, stage, opened, later])
    · refine settles_wake opened (by rw [due?, stage]) (Nat.le_of_not_lt later) ?_
      exact settles_flushing (by simp [wake, stage, opened]) (by simp [wake, stage])

private theorem settles_announcing (opened : connection.closed = false)
    (stage : connection.stage = .announcing) : Settles settings now connection := by
  refine settles_proceed opened (settles_idle ?_ ?_)
  · rw [proceed_keeps_closed, opened]
  · simp [proceed, stage, emit, opened]

private theorem settles_starting (opened : connection.closed = false)
    (stage : connection.stage = .starting) : Settles settings now connection := by
  refine settles_proceed opened (.waits ?_)
  simp [proceed, stage, waits, opened]

private theorem settles_resting (opened : connection.closed = false)
    (stage : connection.stage = .resting moment) : Settles settings now connection := by
  by_cases later : now < moment
  · exact .waits (by simp [waits, stage, opened, later])
  · refine settles_wake opened (by rw [due?, stage]) (Nat.le_of_not_lt later) ?_
    exact settles_starting (by simp [wake, stage, opened]) (by simp [wake, stage])

private theorem settles_reporting (opened : connection.closed = false)
    (stage : connection.stage = .reporting cause attempt) : Settles settings now connection := by
  have rests : (connection.proceed settings now).stage = .resting (now + settings.retryDelay) := by
    simp [proceed, stage, emit, opened]
  exact settles_proceed opened (settles_resting (by rw [proceed_keeps_closed, opened]) rests)

private theorem settles_failing (opened : connection.closed = false)
    (stage : connection.stage = .failing cause) : Settles settings now connection := by
  have reports : (connection.proceed settings now).stage =
      .reporting cause (connection.retryCount + 1) := by
    simp [proceed, stage]
  exact settles_proceed opened (settles_reporting (by rw [proceed_keeps_closed, opened]) reports)

/-- The task of any connection can come to wait. -/
theorem settles (inService : connection.InService) : Settles settings now connection := by
  cases opened : connection.closed with
  | true =>
    refine .step .stop (takes_stop.mpr opened) (.waits ?_)
    simp [afterStep, stop, waits, opened]
  | false =>
    have goesOn : (connection.proceed settings now).closed = false := by
      rw [proceed_keeps_closed, opened]
    cases stage : connection.stage with
    | starting => exact settles_starting opened stage
    | opening => exact .waits (by simp [waits, stage, opened])
    | greeting =>
      exact settles_proceed opened (settles_announcing goesOn (by simp [proceed, stage]))
    | announcing => exact settles_announcing opened stage
    | reading deadline => exact settles_reading opened stage
    | storing items deadline =>
      have reads : (connection.proceed settings now).stage =
          .reading (some (deadline.getD (now + settings.batchInterval))) := by
        simp [proceed, stage, opened]
      exact settles_proceed opened (settles_reading goesOn reads)
    | flushing => exact settles_flushing opened stage
    | ending cause =>
      have fails : (connection.proceed settings now).stage = .failing cause := by
        simp [proceed, stage]
      exact settles_proceed opened (settles_failing goesOn fails)
    | failing cause => exact settles_failing opened stage
    | reporting cause attempt => exact settles_reporting opened stage
    | resting moment => exact settles_resting opened stage
    | stopped => exact absurd stage (inService opened)

end Connection

namespace Connections

variable {table : Connections} {connection : Connection} {number : Nat}

/-- To change a connection is to put the changed one in its place. -/
theorem modify_present (present : table.all[number]? = some connection)
    (change : Connection → Connection) :
    table.modify number change = table.modify number fun _ => change connection := by
  have all : table.all.modify number change =
      table.all.modify number fun _ => change connection := by
    apply Array.ext_getElem?
    intro other
    simp only [Array.getElem?_modify]
    split
    · rename_i same
      rw [← same, present]
      rfl
    · rfl
  simp only [modify, all]

theorem modify_id (table : Connections) (number : Nat) : table.modify number id = table := by
  have all : table.all.modify number id = table.all := by
    rw [← Array.toList_inj, Array.toList_modify, List.modify_id]
  simp only [modify, all]

/-- A change before a replacement is lost. -/
theorem modify_twice (table : Connections) (number : Nat) (change : Connection → Connection)
    (later : Connection) :
    (table.modify number change).modify number (fun _ => later) =
      table.modify number fun _ => later := by
  have all : (table.all.modify number change).modify number (fun _ => later) =
      table.all.modify number fun _ => later := by
    rw [← Array.toList_inj, Array.toList_modify, Array.toList_modify, Array.toList_modify,
      List.modify_modify_eq]
    rfl
  simp only [modify, all]

end Connections

namespace Timeline

variable {timeline : Timeline} {settings : StreamSettings} {connection : Connection} {number : Nat}

private theorem inService_kept (settings : StreamSettings) :
    Kept settings fun _ watched _ => watched.connection.InService where
  task inService taken := Connection.inService_step inService taken
  tick inService _ := inService
  close _ := nofun
  take inService := inService

/-- Every connection is in service, at all times. -/
theorem Reached.inService (reached : Reached settings timeline)
    (present : timeline.traffic.table.all[number]? = some connection) : connection.InService := by
  obtain ⟨id, watched, serves, inService⟩ :=
    (inService_kept settings).allHave (fun _ _ _ => nofun) reached number
      (Array.getElem?_eq_some_iff.mp present).1
  have same := Traffic.watched?_connection serves.present
  rw [present] at same
  rwa [Option.some.inj same]

/-- Wherever one task can come at a time, virtual time has it come, and every other task stays where it
is. -/
theorem one_reaches {later : Connection}
    (reaches : Connection.Reaches timeline.traffic.table.settings timeline.now connection later)
    (present : timeline.traffic.table.all[number]? = some connection) :
    ∃ happenings : List Happening, (∀ happening ∈ happenings, happening.Unattended) ∧
      (timeline.run happenings).now = timeline.now ∧
      (timeline.run happenings).traffic.table =
        timeline.traffic.table.modify number fun _ => later := by
  generalize same : timeline.traffic.table.settings = settings at reaches
  generalize standing : timeline.now = now at reaches ⊢
  induction reaches using Relation.ReflTransGen.head_induction_on generalizing timeline with
  | refl =>
    have same := (Connections.modify_present present id).symm.trans (Connections.modify_id _ number)
    exact ⟨[], by simp, standing, same.symm⟩
  | @head connection next first rest ih =>
    obtain ⟨step, taken, rfl⟩ := first
    have stepped := after_admitted (timeline.admits_task present (standing ▸ taken))
    have moved : (timeline.after (.act (.task number step))).traffic.table =
        timeline.traffic.table.modify number (·.afterStep settings step) := by
      rw [stepped, ← same]
      rfl
    have there : (timeline.after (.act (.task number step))).traffic.table.all[number]? =
        some (connection.afterStep settings step) := by
      rw [moved, Connections.modify, Array.getElem?_modify, if_pos rfl, present]
      rfl
    obtain ⟨happenings, unattended, atOnce, table⟩ :=
      ih there (by rw [settings_after, same]) (by rw [stepped]; exact standing)
    refine ⟨.act (.task number step) :: happenings, ?_, atOnce, ?_⟩
    · simpa [Happening.Unattended] using unattended
    · exact table.trans (by rw [moved, Connections.modify_twice])

/-- All tasks take steps until they wait, which takes no time. -/
theorem Reached.comes_to_wait (reached : Reached settings timeline) :
    ∃ happenings : List Happening, (∀ happening ∈ happenings, happening.Unattended) ∧
      (timeline.run happenings).now = timeline.now ∧ (timeline.run happenings).waits = true := by
  -- One connection after the other comes to wait, and none of them wakes another.
  have first (count : Nat) : ∃ happenings : List Happening,
      (∀ happening ∈ happenings, happening.Unattended) ∧
      (timeline.run happenings).now = timeline.now ∧
      (timeline.run happenings).traffic.table.all.size = timeline.traffic.table.all.size ∧
      ∀ number < count, ∀ connection : Connection,
        (timeline.run happenings).traffic.table.all[number]? = some connection →
        connection.waits timeline.now = true := by
    induction count with
    | zero => exact ⟨[], by simp, rfl, rfl, fun number below => absurd below (Nat.not_lt_zero number)⟩
    | succ count ih =>
      obtain ⟨happenings, unattended, atOnce, size, waiting⟩ := ih
      have reached := reached.run happenings
      cases present : (timeline.run happenings).traffic.table.all[count]? with
      | none =>
        refine ⟨happenings, unattended, atOnce, size, fun number below connection found => ?_⟩
        rcases Nat.lt_succ_iff_lt_or_eq.mp below with before | rfl
        · exact waiting number before connection found
        · rw [present] at found
          cases found
      | some connection =>
        obtain ⟨later, reaches, waits⟩ := Connection.settles (reached.inService present)
        obtain ⟨more, unattendedToo, atOnceToo, table⟩ := one_reaches reaches present
        refine ⟨happenings ++ more, ?_, ?_, ?_, ?_⟩
        · exact fun happening member =>
            (List.mem_append.mp member).elim (unattended happening) (unattendedToo happening)
        · rw [run_append, atOnceToo, atOnce]
        · rw [run_append, table, Connections.modify, Array.size_modify, size]
        · intro number below other found
          rw [run_append, table, Connections.modify, Array.getElem?_modify] at found
          rcases Nat.lt_succ_iff_lt_or_eq.mp below with before | rfl
          · rw [if_neg (Nat.ne_of_gt before)] at found
            exact waiting number before other found
          · rw [if_pos rfl, present] at found
            rw [← atOnce, ← Option.some.inj found]
            exact waits
  obtain ⟨happenings, unattended, atOnce, size, waiting⟩ :=
    first timeline.traffic.table.all.size
  refine ⟨happenings, unattended, atOnce, Array.all_eq_true'.mpr fun connection member => ?_⟩
  obtain ⟨number, present⟩ := Array.mem_iff_getElem?.mp member
  have inRange := (Array.getElem?_eq_some_iff.mp present).1
  rw [atOnce]
  exact waiting number (size ▸ inRange) connection present

/-- Every later moment comes, and everything waits at it, with no help from outside. -/
theorem Reached.reaches_time (reached : Reached settings timeline) (span : Nat) :
    ∃ happenings : List Happening, (∀ happening ∈ happenings, happening.Unattended) ∧
      (timeline.run happenings).now = timeline.now + span ∧
      (timeline.run happenings).waits = true := by
  induction span with
  | zero => exact reached.comes_to_wait
  | succ span ih =>
    obtain ⟨happenings, unattended, time, waiting⟩ := ih
    have ticked := after_tick waiting
    have reached := (reached.run happenings).run [.tick]
    obtain ⟨more, unattendedToo, atOnce, waitsToo⟩ := reached.comes_to_wait
    refine ⟨happenings ++ ([.tick] ++ more), ?_, ?_, ?_⟩
    · intro happening member
      rcases List.mem_append.mp member with first | second
      · exact unattended happening first
      · rcases List.mem_append.mp second with tick | later
        · rw [List.mem_singleton.mp tick]
          trivial
        · exact unattendedToo happening later
    · rw [run_append, run_append, atOnce]
      change ((timeline.run happenings).after .tick).now = _
      rw [ticked]
      exact congrArg (· + 1) time
    · rwa [run_append, run_append]

end Timeline
end LiveLog
