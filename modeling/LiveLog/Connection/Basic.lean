import LiveLog.Config
import LiveLog.EventStream
import LiveLog.Viewer

/-! One push connection. It asks for its stream, gathers the records of the payloads that arrive into
batches, and asks again after a fixed delay whenever the stream cannot be opened or ends. It goes on
until it is closed from outside.

A connection is a machine in small steps. What it shares with its owner (whether it is connecting, the
failures counted, the records gathered) changes in one step at a time, so that the owner may look at it
or close it between any two of them. A step either waits for a signal from the stream, waits for the
clock, or goes on by itself. Time enters as an argument. -/
namespace LiveLog

/-- Where a connection stands. -/
inductive Stage where
  /-- About to mark itself connecting and to ask for the stream. -/
  | starting
  /-- Waits for the answer. -/
  | opening
  /-- Has the stream and is about to forget earlier failures. -/
  | greeting
  /-- About to tell that the stream is open. -/
  | announcing
  /-- Waits for a payload, the end of the stream, or the time to deliver. -/
  | reading (deadline : Option Nat)
  /-- About to add records to those gathered. -/
  | storing (items : List Json) (deadline : Option Nat)
  /-- The time to deliver has come. -/
  | flushing
  /-- The stream is over; what was gathered is still to be delivered. -/
  | ending (cause : String)
  /-- About to count a failure. -/
  | failing (cause : String)
  /-- About to tell of a failure. -/
  | reporting (cause : String) (attempt : UInt32)
  /-- Waits before it starts again. -/
  | resting (wake : Nat)
  /-- Does nothing more. -/
  | stopped
  deriving Inhabited

/-- What a stream tells its connection. -/
inductive Signal where
  | accepted
  | refused (error : TransportError)
  | payload (text : String)
  | broken (error : TransportError)

/-- An event on its way to the viewer, with the time at which it was sent. -/
structure Sent where
  time : Nat
  event : StreamEvent
  deriving Inhabited

/-- A connection: its address, where it stands, what it shares with its owner, and the events it has
sent that nobody has taken yet. The failures in a row are counted in 32 bits: where they no longer fit, the
count begins again at zero. -/
structure Connection where
  url : String
  stage : Stage
  isConnecting : Bool
  retryCount : UInt32
  pending : List Json
  lastError : Option String
  closed : Bool
  outbox : List Sent
  deriving Inhabited

namespace Connection

/-- A connection that is about to ask for its stream. -/
def new (url : String) : Connection where
  url := url
  stage := .starting
  isConnecting := true
  retryCount := 0
  pending := []
  lastError := none
  closed := false
  outbox := []

/-- Sends an event and goes on to another stage. A closed connection sends nothing and stops. -/
def emit (connection : Connection) (event : StreamEvent) (now : Nat) (stage : Stage) : Connection :=
  if connection.closed then { connection with stage := .stopped }
  else { connection with outbox := connection.outbox ++ [⟨now, event⟩], stage }

/-- Sends the records gathered as one batch. Without records, or once closed, nothing happens. -/
def flush (connection : Connection) (now : Nat) : Connection :=
  if connection.closed || connection.pending.isEmpty then connection
  else { connection with
    pending := []
    outbox := connection.outbox ++ [⟨now, .batch connection.pending⟩] }

/-- One step of a connection that waits for nothing. The time to deliver is set by the first record
gathered after a delivery, and later records do not move it. -/
def proceed (settings : StreamSettings) (now : Nat) (connection : Connection) : Connection :=
  match connection.stage with
  | .starting => { connection with isConnecting := true, stage := .opening }
  | .greeting =>
    { connection with
      isConnecting := false
      retryCount := 0
      lastError := none
      stage := .announcing }
  | .announcing => connection.emit .opened now (.reading none)
  | .storing items deadline =>
    if connection.closed then { connection with stage := .reading deadline }
    else { connection with
      pending := connection.pending ++ items
      stage := .reading (some (deadline.getD (now + settings.batchInterval))) }
  | .flushing => { connection.flush now with stage := .reading none }
  | .ending cause => { connection.flush now with stage := .failing cause }
  | .failing cause =>
    { connection with
      isConnecting := false
      retryCount := connection.retryCount + 1
      lastError := some cause
      stage := .reporting cause (connection.retryCount + 1) }
  | .reporting cause attempt =>
    connection.emit (.error cause attempt) now (.resting (now + settings.retryDelay))
  | .opening => connection
  | .reading _ => connection
  | .resting _ => connection
  | .stopped => connection

/-- A signal from the stream. A payload that cannot be read, and one without records, is passed
over. Signals that no stage waits for have no effect. -/
def receive (connection : Connection) (signal : Signal) : Connection :=
  match connection.stage, signal with
  | .opening, .accepted => { connection with stage := .greeting }
  | .opening, .refused error => { connection with stage := .failing error.message }
  | .reading deadline, .payload text =>
    match splitPayload text with
    | .error _ => connection
    | .ok [] => connection
    | .ok items => { connection with stage := .storing items deadline }
  | .reading _, .broken error => { connection with stage := .ending error.message }
  | _, _ => connection

/-- The time a connection waits for. -/
def due? (connection : Connection) : Option Nat :=
  match connection.stage with
  | .reading deadline => deadline
  | .resting wake => some wake
  | _ => none

/-- The clock has reached the time a connection waits for. -/
def wake (connection : Connection) : Connection :=
  match connection.stage with
  | .reading (some _) => { connection with stage := .flushing }
  | .resting _ => { connection with stage := .starting }
  | _ => connection

/-- Closes the connection from outside. Records still gathered are sent at once, as the last event
of all. -/
def close (connection : Connection) (now : Nat) : Connection :=
  { connection.flush now with closed := true, pending := [] }

/-- The connection is taken out of service, wherever it stands. -/
def stop (connection : Connection) : Connection :=
  { connection with stage := .stopped }

/-- The connection after its events were taken. -/
def drained (connection : Connection) : Connection :=
  { connection with outbox := [] }

end Connection

end LiveLog
