import LiveLog.Coordinator
import LiveLog.Host.Basic
import LiveLog.Rehearsal.Settlement

/-! Connections against a scripted server in virtual time. The clock stands still while anything can
go on by itself; only when all connections wait does it move, and then no further than to the next time
one of them waits for. -/
namespace LiveLog.Rehearsal

/-- Whatever holds connections. -/
class Holder (σ : Type) where
  connections : σ → Connections
  setConnections : σ → Connections → σ

instance : Holder Connections := ⟨id, fun _ connections => connections⟩

instance {α : Type} : Holder (Coordinator α) :=
  ⟨Coordinator.connections, fun coordinator connections => { coordinator with connections }⟩

instance {α : Type} : Holder (Host α) :=
  ⟨fun host => host.coordinator.connections, fun host connections =>
    { host with coordinator := { host.coordinator with connections } }⟩

/-- The next time a connection waits for. -/
def nextDue? (connections : Connections) : Option Nat :=
  (connections.all.toList.filterMap Connection.due?).min?

/-- A clock, a server, whoever holds the connections, and the order in which they get their turn. -/
structure Scene (σ : Type) where
  now : Nat
  server : Server
  holder : σ
  order : List Nat

namespace Scene

variable {σ : Type} [Holder σ]

/-- The beginning: the clock at zero, and no connection has had a turn. -/
def start (server : Server) (holder : σ) : Scene σ :=
  ⟨0, server, holder, []⟩

/-- Everything goes on while the clock stands. -/
def settle (scene : Scene σ) : Scene σ :=
  let settled := settleAll (Holder.connections scene.holder) scene.now scene.server scene.order
  { now := scene.now
    server := settled.server
    holder := Holder.setConnections scene.holder settled.connections
    order := settled.order }

/-- The clock moves to a time, and stands still at every time on the way that a connection waits
for. -/
def runUntil (target : Nat) (scene : Scene σ) : Scene σ :=
  match nextDue? (Holder.connections scene.holder) with
  | none => { scene with now := target }
  | some due =>
    if scene.now < due ∧ due ≤ target then
      runUntil target { scene with now := due }.settle
    else { scene with now := target }
termination_by target - scene.now
decreasing_by
  simp only [settle]
  omega

/-- Something happens to the holder, and everything goes on from there. -/
def act {β : Type} (scene : Scene σ) (change : σ → σ × β) : Scene σ × β :=
  let (holder, result) := change scene.holder
  ({ scene with holder }.settle, result)

/-- Something happens to the server, and everything goes on from there. -/
def serve {β : Type} (scene : Scene σ) (change : Server → Server × β) : Scene σ × β :=
  let (server, result) := change scene.server
  ({ scene with server }.settle, result)

/-- Time passes. -/
def advance (scene : Scene σ) (duration : Nat) : Scene σ :=
  (runUntil (scene.now + duration) scene).settle

end Scene

/-- What is received on the channel of a connection. -/
inductive Received where
  | event (event : StreamEvent)
  | ended

/-- The channels that are still open for their receiver. -/
structure Listener where
  channels : List Nat

/-- Takes from every open channel what has been sent on it, in the order of time and, at the same
time, of the channels. The channel of a connection out of service ends after that. -/
def Listener.collect (listener : Listener) (connections : Connections) (now : Nat) :
    Listener × Connections × List (Nat × Nat × Received) :=
  let gathered := listener.channels.map fun channel =>
    let sent := (connections.all[channel]?).elim [] Connection.outbox
    let ended := (connections.all[channel]?).any Connection.closed
    (channel, ended, sent.map (fun item => (item.time, channel, Received.event item.event)) ++
      if ended then [(now, channel, Received.ended)] else [])
  let received := (gathered.flatMap (·.2.2)).mergeSort fun a b =>
    a.1 < b.1 || (a.1 = b.1 && a.2.1 ≤ b.2.1)
  let emptied := listener.channels.foldl (fun connections channel => (connections.take channel).1)
    connections
  (⟨(gathered.filter (!·.2.1)).map (·.1)⟩, emptied, received)

end LiveLog.Rehearsal
