import Mathlib.Computability.Language
import Mathlib.Order.CompletePartialOrder
import LiveLog.Proofs.Connection.Run

/-! The events of a connection follow a protocol. Failures are told one by one until the stream opens;
batches come only from an open stream; and before the stream opens again at least one failure is told,
with the number of those since it was last open, as far as it fits into 32 bits. The events sent so far and
the stage of the connection fit together after every move, and the protocol is read off the events alone. -/
namespace LiveLog

/-- What an event tells, without its contents. -/
inductive EventKind where
  | opened
  | batch
  | error
  deriving DecidableEq, Repr

/-- The kind of an event. -/
def StreamEvent.kind : StreamEvent → EventKind
  | .opened => .opened
  | .batch _ => .batch
  | .error _ _ => .error

namespace Protocol

open scoped Computability

/-- The word of a single event. -/
def once (kind : EventKind) : Language EventKind := {[kind]}

/-- The stream opens and delivers batches. -/
def streaming : Language EventKind := once .opened * (once .batch)∗

/-- The stream opens, delivers batches, and then fails at least once. -/
def round : Language EventKind := streaming * (once .error * (once .error)∗)

/-- Failures before the stream opens for the first time, and then any number of rounds. -/
def words : Language EventKind := (once .error)∗ * round∗

/-- The failures told since the stream was last open, or since the start. -/
def failuresTold (events : List StreamEvent) : Nat :=
  (events.reverse.takeWhile (·.kind ≠ .opened)).countP (·.kind = .error)

/-- Events that follow the protocol. -/
structure Followed (events : List StreamEvent) : Prop where
  /-- They begin a word of the protocol. -/
  worded : ∃ word ∈ words, events.map StreamEvent.kind <+: word
  /-- A batch has records, and the stream was opened before it with no failure in between. -/
  gathered : ∀ before raw after, events = before ++ .batch raw :: after →
    raw ≠ [] ∧ ∃ earlier since, before = earlier ++ .opened :: since ∧
      ∀ event ∈ since, event.kind ≠ .error
  /-- A failure tells how many there were since the stream was last open, itself included, -/
  counted : ∀ before cause attempt after, events = before ++ .error cause attempt :: after →
    failuresTold before + 1 < UInt32.size → attempt.toNat = failuresTold before + 1
  /-- and what 32 bits keep of that number where it is too large for them. -/
  wrapped : ∀ before cause attempt after, events = before ++ .error cause attempt :: after →
    attempt.toNat = (failuresTold before + 1) % UInt32.size

/-! ### Words that grow at their end -/

/-- A word of the protocol may fail once more. -/
theorem words_error : words * once .error ≤ words := by
  have again : round * once .error ≤ round := by
    rw [round, mul_assoc, mul_assoc]
    gcongr
    exact kstar_mul_le_kstar
  calc words * once .error
      = (once .error)∗ * ((1 + round∗ * round) * once .error) := by
        rw [words, mul_assoc, Language.one_add_kstar_mul_self_eq_kstar]
    _ = (once .error)∗ * once .error + (once .error)∗ * (round∗ * (round * once .error)) := by
        rw [add_mul, one_mul, mul_add, mul_assoc round∗]
    _ ≤ (once .error)∗ * 1 + (once .error)∗ * round∗ := by
        refine add_le_add (kstar_mul_le_kstar.trans_eq (mul_one _).symm) ?_
        gcongr
        exact (mul_le_mul_right again _).trans kstar_mul_le_kstar
    _ ≤ words := by
        rw [words, ← mul_add]
        gcongr
        exact add_le one_le_kstar le_rfl

/-- An open stream that fails completes a round. -/
theorem streaming_error : words * streaming * once .error ≤ words := by
  have completes : streaming * once .error ≤ round := by
    rw [round]
    gcongr
    exact le_mul_of_one_le_right' one_le_kstar
  calc words * streaming * once .error
      = (once .error)∗ * (round∗ * (streaming * once .error)) := by
        rw [words, mul_assoc, mul_assoc]
    _ ≤ (once .error)∗ * (round∗ * round) := by gcongr
    _ ≤ words := by
        rw [words]
        gcongr
        exact kstar_mul_le_kstar

/-- An open stream may deliver once more. -/
theorem streaming_batch : words * streaming * once .batch ≤ words * streaming := by
  rw [streaming, mul_assoc, mul_assoc]
  gcongr
  exact kstar_mul_le_kstar

/-- A stream that has just opened has delivered nothing. -/
theorem once_opened : once .opened ≤ streaming :=
  le_mul_of_one_le_right' one_le_kstar

/-! ### What has been told -/

/-- How the stream of a connection stands after the events told. -/
inductive Phase where
  /-- It is not open, and there were so many failures since it was. -/
  | down (failures : Nat)
  | up
  deriving DecidableEq, Repr

/-- The failures of a phase. -/
def Phase.failures : Phase → Nat
  | .down failures => failures
  | .up => 0

/-- The words that end in a phase. -/
def Phase.words : Phase → Language EventKind
  | .down _ => Protocol.words
  | .up => Protocol.words * streaming

/-- Events that lead to a phase, told one after the other. -/
inductive Told : List StreamEvent → Phase → Prop where
  | nothing : Told [] (.down 0)
  | opened (told : Told events (.down failures)) : Told (events ++ [.opened]) .up
  | batch (told : Told events .up) (filled : raw ≠ []) : Told (events ++ [.batch raw]) .up
  | error (told : Told events phase) (cause : String) :
      Told (events ++ [.error cause (UInt32.ofNat (phase.failures + 1))]) (.down (phase.failures + 1))

theorem told_words (told : Told events phase) : events.map StreamEvent.kind ∈ phase.words := by
  induction told with
  | nothing => exact Language.append_mem_mul (Language.nil_mem_kstar _) (Language.nil_mem_kstar _)
  | opened told ih =>
    rw [List.map_append]
    exact Language.append_mem_mul ih (once_opened rfl)
  | batch told filled ih =>
    rw [List.map_append]
    exact streaming_batch (Language.append_mem_mul ih rfl)
  | @error events phase told cause ih =>
    rw [List.map_append]
    cases phase with
    | down failures => exact words_error (Language.append_mem_mul ih rfl)
    | up => exact streaming_error (Language.append_mem_mul ih rfl)

theorem told_failures (told : Told events phase) : failuresTold events = phase.failures := by
  induction told with
  | nothing => rfl
  | opened told ih => simp [failuresTold, StreamEvent.kind, Phase.failures]
  | batch told filled ih => simpa [failuresTold, StreamEvent.kind] using ih
  | error told cause ih =>
    simp only [failuresTold, Phase.failures] at ih ⊢
    simpa [StreamEvent.kind] using ih

/-- While the stream is open no failure was told since it was opened. -/
theorem told_up (told : Told events .up) :
    ∃ earlier since, events = earlier ++ .opened :: since ∧ ∀ event ∈ since, event.kind ≠ .error := by
  generalize standing : Phase.up = phase at told
  induction told with
  | nothing => cases standing
  | @opened events count told ih => exact ⟨events, [], rfl, by simp⟩
  | @batch events raw told filled ih =>
    obtain ⟨earlier, since, rfl, faultless⟩ := ih rfl
    refine ⟨earlier, since ++ [.batch raw], by simp, ?_⟩
    intro event member
    rcases List.mem_append.mp member with older | newest
    · exact faultless event older
    · rw [List.mem_singleton.mp newest]
      exact nofun
  | error told cause ih => cases standing

/-- What was told first was told as well. -/
theorem told_prefix (told : Told events phase) (first : before <+: events) :
    ∃ phase, Told before phase := by
  induction told with
  | nothing =>
    rw [List.prefix_nil.mp first]
    exact ⟨_, .nothing⟩
  | opened told ih =>
    rcases List.prefix_concat_iff.mp first with rfl | first
    · exact ⟨_, .opened told⟩
    · exact ih first
  | batch told filled ih =>
    rcases List.prefix_concat_iff.mp first with rfl | first
    · exact ⟨_, .batch told filled⟩
    · exact ih first
  | error told cause ih =>
    rcases List.prefix_concat_iff.mp first with rfl | first
    · exact ⟨_, .error told cause⟩
    · exact ih first

private theorem told_last_batch (told : Told events phase) (last : events = before ++ [.batch raw]) :
    raw ≠ [] ∧ Told before .up := by
  cases told with
  | nothing => simp at last
  | opened told => simp at last
  | batch told filled =>
    obtain ⟨rfl, rfl⟩ : _ = before ∧ _ = raw := by simpa using last
    exact ⟨filled, told⟩
  | error told cause => simp at last

private theorem told_last_error (told : Told events phase)
    (last : events = before ++ [.error cause attempt]) :
    ∃ earlier, Told before earlier ∧ attempt = UInt32.ofNat (earlier.failures + 1) := by
  cases told with
  | nothing => simp at last
  | opened told => simp at last
  | batch told filled => simp at last
  | error told cause =>
    obtain ⟨rfl, same⟩ := List.append_inj' last rfl
    cases same
    exact ⟨_, told, rfl⟩

/-- A failure tells what 32 bits keep of the failures in a row. -/
private theorem told_count (told : Told events phase)
    (split : events = before ++ .error cause attempt :: after) :
    attempt = UInt32.ofNat (failuresTold before + 1) := by
  have first : before ++ [.error cause attempt] <+: events := ⟨after, by simp [split]⟩
  obtain ⟨_, begun⟩ := told_prefix told first
  obtain ⟨earlier, led, rfl⟩ := told_last_error begun rfl
  rw [told_failures led]

/-- Events that were told follow the protocol. -/
theorem told_followed (told : Told events phase) : Followed events where
  worded := by
    have word := told_words told
    cases phase with
    | down failures => exact ⟨_, word, List.prefix_refl _⟩
    | up =>
      -- The word is not complete yet. One failure completes it.
      exact ⟨_, streaming_error (Language.append_mem_mul word rfl), List.prefix_append _ _⟩
  gathered before raw after split := by
    have first : before ++ [.batch raw] <+: events := ⟨after, by simp [split]⟩
    obtain ⟨_, begun⟩ := told_prefix told first
    obtain ⟨filled, opened⟩ := told_last_batch begun rfl
    exact ⟨filled, told_up opened⟩
  counted before cause attempt after split fits := by
    rw [told_count told split]
    exact UInt32.toNat_ofNat_of_lt' fits
  wrapped before cause attempt after split := by
    rw [told_count told split]
    exact UInt32.toNat_ofNat'

/-! ### What a connection tells -/

/-- A stage and what is shared fit a phase of the events told. Records are gathered only while the
stream is open, and are gone before its failure is counted. The count that is kept has the failures of the
phase in 32 bits. -/
def Fits (phase : Phase) (connection : Connection) : Prop :=
  match connection.stage with
  | .reading _ => phase = .up ∧ connection.retryCount = 0
  | .storing _ _ => phase = .up ∧ connection.retryCount = 0
  | .flushing => phase = .up ∧ connection.retryCount = 0
  | .ending _ => phase = .up ∧ connection.retryCount = 0
  | .failing _ => connection.retryCount = UInt32.ofNat phase.failures ∧ connection.pending = []
  | .reporting _ attempt => attempt = UInt32.ofNat (phase.failures + 1) ∧
      connection.retryCount = attempt ∧ connection.pending = []
  | .announcing => phase ≠ .up ∧ connection.retryCount = 0 ∧ connection.pending = []
  | .stopped => connection.pending ≠ [] → phase = .up
  | _ => phase ≠ .up ∧ connection.retryCount = UInt32.ofNat phase.failures ∧ connection.pending = []

/-- A connection conforms, after events that were taken from it before. What a closed one would do next
is of no account. -/
def Conforms (taken : List StreamEvent) (connection : Connection) : Prop :=
  ∃ phase, Told (taken ++ connection.outbox.map Sent.event) phase ∧
    (connection.closed = false → Fits phase connection)

variable {connection : Connection} {taken : List StreamEvent} (settings : StreamSettings) {now : Nat}

/-- Records are gathered only while the stream is open, at every stage. -/
theorem fits_gathering (fits : Fits phase connection) (gathering : connection.pending ≠ []) :
    phase = .up := by
  cases stage : connection.stage <;> simp [Fits, stage, gathering] at fits <;> simp [fits]

/-- A delivery tells a batch of an open stream, or nothing. -/
theorem told_flush (told : Told (taken ++ connection.outbox.map Sent.event) phase)
    (gathering : connection.pending ≠ [] → phase = .up) :
    Told (taken ++ (connection.flush now).outbox.map Sent.event) phase := by
  simp only [Connection.flush]
  split
  · exact told
  · rename_i ready
    have filled : connection.pending ≠ [] := by
      intro empty
      simp [empty] at ready
    obtain rfl := gathering filled
    rw [List.map_append, ← List.append_assoc]
    exact .batch told filled

theorem flush_empties (opened : connection.closed = false) :
    (connection.flush now).pending = [] := by
  simp only [Connection.flush]
  split
  · rename_i nothing
    simpa [opened] using nothing
  · rfl

@[simp] theorem flush_keeps_count : (connection.flush now).retryCount = connection.retryCount := by
  simp only [Connection.flush]
  split <;> rfl

/-- What an open connection emits is told. -/
theorem told_emit (opened : connection.closed = false) (event : StreamEvent) (stage : Stage)
    (told : Told (taken ++ connection.outbox.map Sent.event ++ [event]) phase) :
    Told (taken ++ (connection.emit event now stage).outbox.map Sent.event) phase := by
  simpa [Connection.emit, opened] using told

/-- A step that tells nothing conforms where the new stage fits. -/
private theorem conforms_silently {next : Connection}
    (told : Told (taken ++ connection.outbox.map Sent.event) phase)
    (silent : next.outbox = connection.outbox) (fits : next.closed = false → Fits phase next) :
    Conforms taken next :=
  ⟨phase, silent ▸ told, fits⟩

/-- An open connection that does what it is about to do conforms: each stage leaves what the next one
expects. -/
private theorem conforms_proceed_open (opened : connection.closed = false)
    (told : Told (taken ++ connection.outbox.map Sent.event) phase) (fits : Fits phase connection) :
    Conforms taken (connection.proceed settings now) := by
  cases stage : connection.stage with
  | starting =>
    simp only [Fits, stage] at fits
    simp only [Connection.proceed, stage]
    exact conforms_silently told rfl fun _ => fits
  | greeting =>
    obtain ⟨down, -, empty⟩ : phase ≠ .up ∧ connection.retryCount = UInt32.ofNat phase.failures ∧
        connection.pending = [] := by
      simpa only [Fits, stage] using fits
    simp only [Connection.proceed, stage]
    exact conforms_silently told rfl fun _ => ⟨down, rfl, empty⟩
  | announcing =>
    obtain ⟨down, unfailed, empty⟩ : phase ≠ .up ∧ connection.retryCount = 0 ∧
        connection.pending = [] := by
      simpa only [Fits, stage] using fits
    cases phase with
    | up => exact absurd rfl down
    | down failures =>
      simp only [Connection.proceed, stage]
      refine ⟨.up, told_emit opened _ _ (.opened told), fun _ => ?_⟩
      simp [Connection.emit, opened, Fits, unfailed]
  | storing items deadline =>
    simp only [Fits, stage] at fits
    simp only [Connection.proceed, stage, opened, Bool.false_eq_true, if_false]
    exact conforms_silently told rfl fun _ => fits
  | flushing =>
    simp only [Fits, stage] at fits
    simp only [Connection.proceed, stage]
    exact ⟨phase, told_flush told fun _ => fits.1, fun _ => by simpa [Fits] using fits⟩
  | ending cause =>
    obtain ⟨rfl, unfailed⟩ : phase = .up ∧ connection.retryCount = 0 := by
      simpa only [Fits, stage] using fits
    simp only [Connection.proceed, stage]
    exact ⟨.up, told_flush told fun _ => rfl, fun _ => by
      simpa [Fits, Phase.failures, unfailed] using flush_empties opened⟩
  | failing cause =>
    obtain ⟨counted, empty⟩ : connection.retryCount = UInt32.ofNat phase.failures ∧
        connection.pending = [] := by
      simpa only [Fits, stage] using fits
    have more : connection.retryCount + 1 = UInt32.ofNat (phase.failures + 1) := by
      rw [counted, UInt32.ofNat_add]
      rfl
    simp only [Connection.proceed, stage]
    exact conforms_silently told rfl fun _ => ⟨more, rfl, empty⟩
  | reporting cause attempt =>
    obtain ⟨rfl, counted, empty⟩ : attempt = UInt32.ofNat (phase.failures + 1) ∧
        connection.retryCount = attempt ∧ connection.pending = [] := by
      simpa only [Fits, stage] using fits
    simp only [Connection.proceed, stage]
    refine ⟨.down (phase.failures + 1), told_emit opened _ _ (.error told cause), fun _ => ?_⟩
    simp [Connection.emit, opened, Fits, Phase.failures, counted, empty]
  | _ =>
    simp only [Connection.proceed, stage]
    exact conforms_silently told rfl fun _ => fits

theorem conforms_proceed (conforms : Conforms taken connection) :
    Conforms taken (connection.proceed settings now) := by
  obtain ⟨phase, told, fits⟩ := conforms
  cases closed : connection.closed with
  | false => exact conforms_proceed_open settings closed told (fits closed)
  | true =>
    refine conforms_silently told
      (Connection.closed_step_is_silent settings closed (.proceed now)).1 fun opened => ?_
    rw [Connection.proceed_keeps_closed settings, closed] at opened
    cases opened

/-- A signal leads to a stage that fits as well. -/
private theorem fits_receive (fits : Fits phase connection) (signal : Signal) :
    Fits phase (connection.receive signal) := by
  unfold Connection.receive
  split
  case h_1 opening => simpa [Fits, opening] using fits
  case h_2 opening =>
    obtain ⟨-, counted, empty⟩ : phase ≠ .up ∧ connection.retryCount = UInt32.ofNat phase.failures ∧
        connection.pending = [] := by
      simpa only [Fits, opening] using fits
    exact ⟨counted, empty⟩
  case h_3 reading =>
    split
    · exact fits
    · exact fits
    · simpa [Fits, reading] using fits
  case h_4 reading => simpa [Fits, reading] using fits
  case h_5 => exact fits

private theorem fits_wake (fits : Fits phase connection) : Fits phase connection.wake := by
  unfold Connection.wake
  split
  case h_1 reading => simpa [Fits, reading] using fits
  case h_2 resting => simpa [Fits, resting] using fits
  case h_3 => exact fits

/-- Every step of its task keeps a connection conforming. -/
theorem conforms_step (conforms : Conforms taken connection) (step : Connection.TaskStep) :
    Conforms taken (connection.afterStep settings step) := by
  cases step with
  | proceed now => exact conforms_proceed settings conforms
  | receive signal =>
    obtain ⟨phase, told, fits⟩ := conforms
    obtain ⟨stage, moved⟩ := connection.receive_moves_stage signal
    have silent : (connection.receive signal).outbox = connection.outbox := by rw [moved]
    have kept : (connection.receive signal).closed = connection.closed := by rw [moved]
    exact conforms_silently told silent fun opened => fits_receive (fits (kept.symm.trans opened)) signal
  | wake =>
    obtain ⟨phase, told, fits⟩ := conforms
    obtain ⟨stage, moved⟩ := connection.wake_moves_stage
    have silent : connection.wake.outbox = connection.outbox := by rw [moved]
    have kept : connection.wake.closed = connection.closed := by rw [moved]
    exact conforms_silently told silent fun opened => fits_wake (fits (kept.symm.trans opened))
  | stop =>
    obtain ⟨phase, told, fits⟩ := conforms
    refine ⟨phase, told, fun opened gathering => ?_⟩
    exact fits_gathering (fits opened) gathering

/-- The final flush conforms: what is still gathered comes from an open stream. -/
theorem conforms_close (conforms : Conforms taken connection) :
    Conforms taken (connection.close now) := by
  obtain ⟨phase, told, fits⟩ := conforms
  refine ⟨phase, ?_, nofun⟩
  cases closed : connection.closed with
  | false => exact told_flush told (fits_gathering (fits closed))
  | true =>
    have silent : (connection.close now).outbox = connection.outbox := by
      rw [Connection.close, Connection.flush_closed closed]
    rw [silent]
    exact told

end Protocol

namespace Watched

open Connection (Move)
open Protocol (Conforms Fits Followed Told)

variable {watched : Watched} (settings : StreamSettings)

/-- The events sent so far, without their times. -/
def events (watched : Watched) : List StreamEvent :=
  watched.sent.map Sent.event

/-- Every move keeps a connection conforming to the events that were taken from it. -/
theorem conforms_after
    (conforms : Conforms (watched.past.delivered.map Sent.event) watched.connection) (move : Move) :
    Conforms ((watched.after settings move).past.delivered.map Sent.event)
      (watched.after settings move).connection := by
  cases move with
  | task step =>
    rw [after, step_keeps_delivered]
    exact Protocol.conforms_step settings conforms step
  | close now => exact Protocol.conforms_close conforms
  | take =>
    obtain ⟨phase, told, fits⟩ := conforms
    refine ⟨phase, ?_, fits⟩
    simpa [after, Past.after, Connection.after, Connection.drained] using told

theorem conforms_run
    (conforms : Conforms (watched.past.delivered.map Sent.event) watched.connection)
    (moves : List Move) :
    Conforms ((watched.run settings moves).past.delivered.map Sent.event)
      (watched.run settings moves).connection := by
  induction moves generalizing watched with
  | nil => exact conforms
  | cons move moves ih => exact ih (conforms_after settings conforms move)

/-- What a connection has told leads to a phase, which it fits as long as it is open. -/
theorem told_run (url : String) (moves : List Move) : ∃ phase,
    Told ((fresh url).run settings moves).events phase ∧
      (((fresh url).run settings moves).connection.closed = false →
        Fits phase ((fresh url).run settings moves).connection) := by
  have conforms : Conforms ((fresh url).past.delivered.map Sent.event) (fresh url).connection :=
    ⟨.down 0, .nothing, fun _ => ⟨nofun, rfl, rfl⟩⟩
  obtain ⟨phase, told, fits⟩ := conforms_run settings conforms moves
  rw [← List.map_append] at told
  exact ⟨phase, told, fits⟩

/-- Whatever happens to a connection and in whatever order, the events it has sent follow the protocol:
they begin a word of it, every batch has records and comes from an open stream, and every failure tells
how many there were since the stream was last open, in 32 bits. -/
theorem events_follow_protocol (url : String) (moves : List Move) :
    Followed ((fresh url).run settings moves).events := by
  obtain ⟨phase, told, -⟩ := told_run settings url moves
  exact Protocol.told_followed told

end Watched
end LiveLog
