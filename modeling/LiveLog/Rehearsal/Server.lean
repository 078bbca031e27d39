import LiveLog.Connection.Table

/-! A log server that plays from a script. For every address it has a list of answers, taken one per
request; a stream it opens is fed from a named queue. -/
namespace LiveLog.Rehearsal

/-- The answer to a request: refused, opened on a feed, or none at all. -/
inductive Answer where
  | refuse (error : TransportError)
  | serve (feed : String)
  | hang
  deriving Repr

/-- Who reads a feed: nobody yet, the stream of a connection, or nobody any more. -/
inductive Reader where
  | awaited
  | connection (number : Nat)
  | gone
  deriving DecidableEq, Repr

/-- What waits to be read from a feed, and whether more may come. -/
structure Feed where
  items : List (Except TransportError String)
  ended : Bool
  reader : Reader

/-- A request: the address, the connection that made it, and when. -/
structure Request where
  url : String
  number : Nat
  time : Nat
  deriving DecidableEq, Repr

/-- The answers left for each address, the feeds by name, and the requests made, in order. -/
structure Server where
  scripts : List (String × List Answer)
  feeds : List (String × Feed)
  requests : List Request

namespace Server

/-- The feed an answer needs. -/
def feedOf? : Answer → Option String
  | .serve feed => some feed
  | _ => none

/-- Adds answers to the script of an address. The feeds they need exist from then on. -/
def addScript (server : Server) (url : String) (answers : List Answer) : Server :=
  let fresh := (answers.filterMap feedOf?).filter fun feed => (server.feeds.lookup feed).isNone
  { server with
    scripts := server.scripts.filter (·.1 ≠ url) ++
      [(url, (server.scripts.lookup url).getD [] ++ answers)]
    feeds := server.feeds ++ fresh.map fun feed => (feed, ⟨[], false, .awaited⟩) }

/-- A server with the given scripts. -/
def ofScripts (scripts : List (String × List Answer)) : Server :=
  scripts.foldl (fun server (url, answers) => server.addScript url answers) ⟨[], [], []⟩

/-- The server with a feed changed. -/
def modifyFeed (server : Server) (name : String) (change : Feed → Feed) : Server :=
  { server with
    feeds := server.feeds.map fun (other, feed) =>
      if other = name then (other, change feed) else (other, feed) }

/-- Puts an item into a feed, and tells whether it was taken: the feed has to exist, not to have
ended, and still to have, or to await, a reader. -/
def put (server : Server) (name : String) (item : Except TransportError String) : Server × Bool :=
  match server.feeds.lookup name with
  | none => (server, false)
  | some feed =>
    if feed.ended || feed.reader = .gone then (server, false)
    else (server.modifyFeed name fun feed => { feed with items := feed.items ++ [item] }, true)

/-- Ends a feed after what waits in it, and tells whether it had not ended before. -/
def finish (server : Server) (name : String) : Server × Bool :=
  match server.feeds.lookup name with
  | none => (server, false)
  | some feed =>
    if feed.ended then (server, false)
    else (server.modifyFeed name fun feed => { feed with ended := true }, true)

/-- The times of the requests made to an address. -/
def attempts (server : Server) (url : String) : List Nat :=
  (server.requests.filter (·.url = url)).map Request.time

/-- The answer to the next request at an address. A script that has run out refuses. -/
def nextAnswer (server : Server) (url : String) : Answer :=
  match server.scripts.lookup url with
  | some (answer :: _) => answer
  | _ => .refuse (.status 503)

/-- A connection asks for its stream: the request is noted, and the answer, if there is one, is the
signal the connection gets. -/
def request (server : Server) (url : String) (number now : Nat) : Server × Option Signal :=
  let answer := server.nextAnswer url
  let server := { server with
    scripts := server.scripts.map fun (other, answers) =>
      if other = url then (other, answers.tail) else (other, answers)
    requests := server.requests ++ [⟨url, number, now⟩] }
  match answer with
  | .refuse error => (server, some (.refused error))
  | .serve feed =>
    (server.modifyFeed feed fun feed => { feed with reader := .connection number }, some .accepted)
  | .hang => (server, none)

/-- Whether a connection reads a feed. -/
def reads (number : Nat) (feed : Feed) : Bool :=
  feed.reader = .connection number

/-- What the stream of a connection has for it: the next item of its feed, or the end. -/
def nextSignal? (server : Server) (number : Nat) : Option Signal := do
  let (_, feed) ← server.feeds.find? fun (_, feed) => reads number feed
  match feed.items with
  | .ok text :: _ => some (.payload text)
  | .error error :: _ => some (.broken error)
  | [] => if feed.ended then some (.broken .closed) else none

/-- The server after a connection took the next item of its stream. -/
def advanceFeed (server : Server) (number : Nat) : Server :=
  { server with
    feeds := server.feeds.map fun (name, feed) =>
      if reads number feed then (name, { feed with items := feed.items.tail }) else (name, feed) }

/-- The stream of a connection is dropped. -/
def dropStream (server : Server) (number : Nat) : Server :=
  { server with
    feeds := server.feeds.map fun (name, feed) =>
      if reads number feed then (name, { feed with reader := .gone }) else (name, feed) }

end Server

end LiveLog.Rehearsal
