import CardTable.Server.Calls

/-!
# The loop

One thread serves all connections. Each round it is told which connections are ready, hands each to
the server, lets the server look at the clocks, closes what the server has given up, and notes which
connections it has to be told about when they can be written to.
-/

namespace CardTable

/-- The open connections, the connections that the loop waits to write to, and the number of the
next new one. -/
structure Board where
  lines : Directory ConnectionId Unit
  waiting : Directory ConnectionId Unit
  nextId : ConnectionId

namespace Board

def vacant : Board where
  lines := .empty
  waiting := .empty
  nextId := 1

/-- Registers a new connection, and says which. -/
def register (board : Board) : ConnectionId × Board :=
  (board.nextId,
    { board with lines := board.lines.insert board.nextId (), nextId := board.nextId + 1 })

def isOpen (board : Board) (id : ConnectionId) : Bool :=
  board.lines.contains id

/-- Whether the loop waits to write to a connection. -/
def awaits (board : Board) (id : ConnectionId) : Bool :=
  board.waiting.contains id

def close (board : Board) (id : ConnectionId) : Board :=
  { board with lines := board.lines.erase id, waiting := board.waiting.erase id }

/-- Lets the loop wait to write to a connection, if it is open, or not wait any more. -/
def await (board : Board) (id : ConnectionId) (wanted : Bool) : Board :=
  { board with
    waiting :=
      if wanted && board.isOpen id then board.waiting.insert id () else board.waiting.erase id }

/-- The board with the right note about a connection. A note that is right already is left alone. -/
def follow (board : Board) (id : ConnectionId) (wanted : Bool) : Board :=
  if board.awaits id = wanted then board else board.await id wanted

/-- The connections that the loop waits to write to. -/
def writers (board : Board) : List ConnectionId :=
  board.waiting.keys

end Board

/-- What a connection is ready for, what it then has to be read, and what it then takes. A
connection that was hung up is read as well, and the read tells. -/
structure Readiness where
  readable : Bool := false
  writable : Bool := false
  hangup : Bool := false
  arrivals : List Arrival := []
  uptake : Uptake := .everything

/-- Something that a round is told. -/
inductive Event
  /-- A connection was made and is registered already. -/
  | accepted (id : ConnectionId)
  | ready (id : ConnectionId) (readiness : Readiness)

structure Loop where
  server : Server
  board : Board

namespace Loop

def start (config : ServerConfig) (deals : List Deal) : Loop where
  server := .start config.validated deals
  board := .vacant

/-- Hands one event to the server, and says which bytes a connection took. A connection that is not
open any more is passed over. -/
def handle (board : Board) (server : Server) (now : Nanos) :
    Event → List (ConnectionId × Bytes) × Server
  | .accepted id => ([], server.accept id now)
  | .ready id readiness =>
    if ¬board.isOpen id then ([], server)
    else
      let server :=
        if readiness.readable || readiness.hangup then server.receive id readiness.arrivals now
        else server
      if readiness.writable then
        let attempt := server.transmit id readiness.uptake
        ([(id, attempt.1)], attempt.2)
      else ([], server)

def handleAll (board : Board) (now : Nanos) :
    Server → List Event → List (ConnectionId × Bytes) × Server
  | server, [] => ([], server)
  | server, event :: later =>
    let first := handle board server now event
    let rest := handleAll board now first.2 later
    (first.1 ++ rest.1, rest.2)

/-- One round. Says which bytes the connections took. -/
def tick (loop : Loop) (events : List Event) (now : Nanos) :
    List (ConnectionId × Bytes) × Loop :=
  let handled := handleAll loop.board now loop.server events
  let (closings, server) := (handled.2.sweep now).takeClosings
  let board := closings.foldl (fun board closing => board.close closing.connection) loop.board
  let board := server.writeInterest.foldl (fun board (id, wanted) => board.follow id wanted) board
  (handled.1, { server, board })

end Loop

end CardTable
