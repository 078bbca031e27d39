import LiveLog.Connection.Basic

/-! All connections of a host. Each has a number of its own, given in the order in which they were
made; an instance that is connected is registered with the number of its connection. A connection that
was closed keeps its number and whatever it sent, and is never registered again. -/
namespace LiveLog

/-- What can be seen of a connection from outside. -/
structure Snapshot where
  url : String
  isConnecting : Bool
  retryCount : UInt32
  pending : Nat
  lastError : Option String
  deriving DecidableEq, Repr

/-- The view of a connection from outside. -/
def Connection.snapshot (connection : Connection) : Snapshot where
  url := connection.url
  isConnecting := connection.isConnecting
  retryCount := connection.retryCount
  pending := connection.pending.length
  lastError := connection.lastError

/-- All connections made, by number, and the numbers of those in use, by instance. -/
structure Connections where
  settings : StreamSettings
  all : Array Connection
  registry : List (String × Nat)

namespace Connections

/-- No connections. -/
def new (settings : StreamSettings) : Connections := ⟨settings, #[], []⟩

/-- The table with one connection changed. -/
def modify (connections : Connections) (number : Nat) (change : Connection → Connection) :
    Connections :=
  { connections with all := connections.all.modify number change }

/-- The number of the connection in use for an instance. -/
def number? (connections : Connections) (id : String) : Option Nat :=
  connections.registry.lookup id

/-- Closes the connection of an instance, if it has one, and tells whether it had. -/
def disconnect (connections : Connections) (id : String) (now : Nat) : Connections × Bool :=
  match connections.number? id with
  | none => (connections, false)
  | some number =>
    ({ connections.modify number (·.close now) with
        registry := connections.registry.filter (·.1 ≠ id) }, true)

/-- Makes a connection for an instance in place of the one it had, and tells its number. -/
def connect (connections : Connections) (id url : String) (now : Nat) : Connections × Nat :=
  let (connections, _) := connections.disconnect id now
  ({ connections with
      all := connections.all.push (Connection.new url)
      registry := connections.registry ++ [(id, connections.all.size)] }, connections.all.size)

/-- The connection in use for an instance, seen from outside. -/
def snapshot? (connections : Connections) (id : String) : Option Snapshot := do
  let connection ← connections.all[← connections.number? id]?
  return connection.snapshot

/-- Whether an instance has a connection in use. -/
def isConnected (connections : Connections) (id : String) : Bool :=
  (connections.number? id).isSome

/-- The number of connections in use. -/
def count (connections : Connections) : Nat :=
  connections.registry.length

/-- Takes the events a connection has sent. -/
def take (connections : Connections) (number : Nat) : Connections × List Sent :=
  (connections.modify number Connection.drained,
    (connections.all[number]?).elim [] Connection.outbox)

end Connections

end LiveLog
