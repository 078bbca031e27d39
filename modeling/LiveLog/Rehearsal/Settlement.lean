import LiveLog.Rehearsal.Server

/-! What connections do while the clock stands. They get their turns one after another, and each runs
until it waits. One that is woken very often in its turn is interrupted, so that the others get theirs;
it goes on after them. -/
namespace LiveLog.Rehearsal

/-- One step of a connection at a standing clock, or none if it waits. A signal that is there goes
before a time that has come. -/
def step? (settings : StreamSettings) (now number : Nat) (server : Server)
    (connection : Connection) : Option (Server × Connection) :=
  match connection.stage with
  | .starting =>
    let asking := connection.proceed settings now
    match server.request connection.url number now with
    | (server, some signal) => some (server, asking.receive signal)
    | (server, none) => some (server, asking)
  | .reading _ =>
    match server.nextSignal? number with
    | some (.broken error) =>
      some ((server.advanceFeed number).dropStream number, connection.receive (.broken error))
    | some signal => some (server.advanceFeed number, connection.receive signal)
    | none =>
      if connection.due?.any (· ≤ now) then some (server, connection.wake) else none
  | .resting wake => if wake ≤ now then some (server, connection.wake) else none
  | .opening => none
  | .stopped => none
  | _ => some (server, connection.proceed settings now)

/-- How often a connection may be woken in one turn. Each item it takes from its stream counts, and so
does each time that comes. -/
def turnBudget : Nat := 128

/-- Enough steps for a turn: a connection that is woken goes through no more than eight stages before
it waits again. -/
def turnSteps : Nat := 8 * (turnBudget + 1)

/-- Whether a connection reads its stream or rests. -/
def isParked (connection : Connection) : Bool :=
  match connection.stage with
  | .reading _ => true
  | .resting _ => true
  | _ => false

/-- Runs a connection until it waits, or until it would have to be woken again and its budget is spent;
the latter is told by `true`. It takes at most `fuel` steps. -/
def run (settings : StreamSettings) (now number : Nat) :
    Nat → Nat → Server × Connection → Server × Connection × Bool
  | 0, _, (server, connection) => (server, connection, false)
  | fuel + 1, budget, (server, connection) =>
    let parked := isParked connection
    if parked && budget = 0 then (server, connection, true)
    else
      match step? settings now number server connection with
      | some state => run settings now number fuel (if parked then budget - 1 else budget) state
      | none => (server, connection, false)

/-- Connections in the middle of a settlement: the server, the connections, the order in which they get
their next turns, and those that were interrupted, last first. -/
structure Settlement where
  server : Server
  connections : Connections
  order : List Nat
  interrupted : List Nat

/-- Whether a connection rests before it starts again. -/
def isResting (connection : Connection) : Bool :=
  match connection.stage with
  | .resting _ => true
  | _ => false

namespace Settlement

/-- The connection goes to the end of the order: those that start again at the same time do so in the
order in which they came to rest. -/
def moveToEnd (settlement : Settlement) (number : Nat) : Settlement :=
  { settlement with order := settlement.order.filter (· ≠ number) ++ [number] }

/-- One turn. A connection that was closed is taken out of service and drops its stream; any other runs
until it waits or is interrupted. `resumed` tells that it was interrupted before. -/
def turn (now : Nat) (resumed : Bool) (settlement : Settlement) (number : Nat) : Settlement :=
  match settlement.connections.all[number]? with
  | none => settlement
  | some connection =>
    if connection.closed then
      { settlement with
        server := settlement.server.dropStream number
        connections := settlement.connections.modify number Connection.stop }
    else
      let settings := settlement.connections.settings
      let goesOn := resumed || (step? settings now number settlement.server connection).isSome
      let (server, connection, interrupted) :=
        run settings now number turnSteps turnBudget (settlement.server, connection)
      let settlement := { settlement with
        server
        connections := settlement.connections.modify number fun _ => connection }
      if interrupted then { settlement with interrupted := number :: settlement.interrupted }
      else if goesOn && isResting connection then settlement.moveToEnd number
      else settlement

/-- Those that were interrupted go on, the last one first, after all others had their turn; and so on
until none is interrupted, for at most `fuel` rounds. -/
def resume (now : Nat) : Nat → Settlement → Settlement
  | 0, settlement => settlement
  | fuel + 1, settlement =>
    if settlement.interrupted.isEmpty then settlement
    else
      resume now fuel
        (settlement.interrupted.foldl (turn now true) { settlement with interrupted := [] })

end Settlement

/-- Enough rounds for whatever the connections can do while the clock stands: they may read all that
waits in the feeds, and go through their answers where they do not rest between them. -/
def roundsFor (server : Server) : Nat :=
  let waiting := server.feeds.foldl (fun count feed => count + feed.2.items.length) 0
  let answers := server.scripts.foldl (fun count script => count + script.2.length) 0
  waiting + answers + 2

/-- The order with the connections that it does not hold at its end. -/
def completeOrder (order : List Nat) (size : Nat) : List Nat :=
  order ++ (List.range size).filter fun number => !order.contains number

/-- All connections, until they wait. -/
def settleAll (connections : Connections) (now : Nat) (server : Server) (order : List Nat) :
    Settlement :=
  let order := completeOrder order connections.all.size
  (order.foldl (Settlement.turn now false) ⟨server, connections, order, []⟩).resume now
    (roundsFor server)

end LiveLog.Rehearsal
