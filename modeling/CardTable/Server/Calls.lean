import CardTable.Server.Requests

/-!
# Calls from outside

What happens to the server: a connection is made, bytes come in, a connection takes bytes, and time
passes. A connection that fails in any way loses its session, and with it its seat.
-/

namespace CardTable

namespace Server

/-- Ends a session for good, and has the connection closed. A room that the session sat in hears
that the player is dead before it hears what follows from the player's leaving. -/
def terminate (server : Server) (id : ConnectionId) (reason : EndReason) : Server :=
  let server := match server.seated? id with
    | none => server
    | some (identity, room) =>
      let server := server.tellRoom room (.dead identity.nickname) (some identity.player)
      match server.depart identity room with
      | .ok rest => rest
      | .error _ => server
  match server.sessions.close id with
  | (some session, sessions) =>
    { server with sessions }.close id (.ended session.nickname? reason)
  | (none, _) => server.close id .unknown

/-- Does what the frames ask for, one after the other. The first failure ends the session. -/
def serveFrames (server : Server) (id : ConnectionId) : List Wire.Frame → Server
  | [] => server
  | frame :: later =>
    match server.dispatch id frame with
    | .ok next => next.serveFrames id later
    | .error failure => failure.server.terminate id (.error failure.cause)

def admits (server : Server) : Bool :=
  server.sessions.count < server.config.maxClients

/-- Takes in a new connection, or has it closed if there are too many. -/
def acceptCore (server : Server) (id : ConnectionId) (now : Nanos) : Server :=
  if server.admits then { server with sessions := server.sessions.connect id now }
  else server.close id .refused

/-- Reads what a connection has, and does what it asks for. -/
def receiveCore (server : Server) (id : ConnectionId) (arrivals : List Arrival) (now : Nanos) :
    Server :=
  match server.sessions.get? id with
  | none => server
  | some session =>
    match session.receive server.sessions.config arrivals now with
    | (.error error, filled) =>
      { server with sessions := server.sessions.put filled }.terminate id (.error (.session error))
    | (.ok traffic, filled) =>
      let taken := filled.takeFrames
      let server := { server with sessions := server.sessions.put taken.2 }
      let server := if traffic.woke then server.tellWake id else server
      match taken.1 with
      | .error error => server.terminate id (.error (.session error))
      | .ok frames => server.serveFrames id frames

/-- Offers a connection what is to be sent, and says what it took. -/
def transmitCore (server : Server) (id : ConnectionId) (uptake : Uptake) : Bytes × Server :=
  match server.sessions.get? id with
  | none => ([], server)
  | some session =>
    let attempt := session.transmit uptake
    let server := { server with sessions := server.sessions.put attempt.session }
    (uptake.taken session.outgoing, match attempt.drained with
      | .ok _ => server
      | .error error => server.terminate id (.error (.session error)))

/-- Acts on a change of liveness: a room hears of its sleepers, and the dead are taken out. -/
def react (server : Server) : ConnectionId × LivenessEvent → Server
  | (id, .fellAsleep) =>
    match server.seated? id with
    | some (identity, room) =>
      server.tellRoom room (.sleep identity.nickname) (some identity.player)
    | none => server
  | (id, .died) => server.terminate id .silence

/-- Looks at every clock: sends the pings that are due, and acts on who fell asleep or died. -/
def sweepCore (server : Server) (now : Nanos) : Server :=
  let beat := server.sessions.beat now
  let server := { server with sessions := beat.sessions }
  beat.events.foldl react (beat.pings.foldl (·.tell · .ping) server)

/-! ## The calls -/

def accept (server : Server) (id : ConnectionId) (now : Nanos) : Server :=
  server.during (·.acceptCore id now)

def receive (server : Server) (id : ConnectionId) (arrivals : List Arrival) (now : Nanos) :
    Server :=
  server.during (·.receiveCore id arrivals now)

/-- A connection can take what is to be sent. Says which bytes it took. -/
def transmit (server : Server) (id : ConnectionId) (uptake : Uptake) : Bytes × Server :=
  let attempt := { server with said := [] }.transmitCore id uptake
  (attempt.1, attempt.2.handOver)

def sweep (server : Server) (now : Nanos) : Server :=
  server.during (·.sweepCore now)

def dismiss (server : Server) (id : ConnectionId) (reason : String) : Server :=
  server.during (·.terminate id (.asked reason))

/-- The connections to be closed, which are then no longer asked for. -/
def takeClosings (server : Server) : List Closing × Server :=
  (server.closings, { server with closings := [] })

/-- The live connections, and for each whether it has something to send. -/
def writeInterest (server : Server) : List (ConnectionId × Bool) :=
  server.sessions.live.entries.map fun (id, session) => (id, session.wantsWrite)

/-- Every connection takes all that there is for it. Says which bytes each took. -/
def flush (server : Server) : List (ConnectionId × Bytes) × Server :=
  server.writeInterest.foldl (fun (sent, server) (id, wanted) =>
    if wanted then
      let (bytes, server) := server.transmit id .everything
      (sent ++ [(id, bytes)], server)
    else (sent, server)) ([], server)

end Server

end CardTable
