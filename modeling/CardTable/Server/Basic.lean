import CardTable.Room.Lobby
import CardTable.Server.Config
import CardTable.Session.Register

/-!
# The server

Everything the server knows: its sessions, its lobby, the number of the next new player, and two
outboxes. `mail` holds what is said to the clients in the call under way, in the order in which it
is said; when the call ends it is queued at the sessions. `closings` holds the connections that are
to be closed, with the reason.
-/

namespace CardTable

/-- A request that was made where it must not be made. -/
inductive Violation
  | nameTwice
  | beforeName (verb : Verb)
  | outsideLobby (verb : Verb) (location : Location)
  | outsideRoom (verb : Verb)
  | outsideGame (verb : Verb)
  | afterGame (verb : Verb)
  deriving DecidableEq, Repr

def Location.label : Location → String
  | unnamed => "Unnamed"
  | lobby => "Lobby"
  | room id => s!"Room(RoomId({id}))"
  | game id => s!"Game(RoomId({id}))"

def Violation.message : Violation → String
  | nameTwice => "NAME sent twice"
  | beforeName verb => s!"{verb.text} before NAME"
  | outsideLobby verb location => s!"{verb.text} outside the lobby ({location.label})"
  | outsideRoom verb => s!"{verb.text} outside a room"
  | outsideGame verb => s!"{verb.text} outside a game"
  | afterGame verb => s!"{verb.text} after the game ended"

/-- Why a client is dropped. -/
inductive ServerError
  | session (error : SessionError)
  | room (error : RoomError)
  | game (error : GameError)
  | violation (violation : Violation)
  /-- The books do not agree: a connection that is served has no session. -/
  | noSession (connection : ConnectionId)
  /-- The books do not agree: a room that somebody is in does not exist. -/
  | roomVanished (room : RoomId)
  /-- The books do not agree: a room that somebody plays in has no game. -/
  | noGame (room : RoomId)
  deriving DecidableEq, Repr

def ServerError.message : ServerError → String
  | .session cause => cause.message
  | .room cause => cause.message
  | .game cause => cause.message
  | .violation what => s!"protocol violation: {what.message}"
  | .noSession id => s!"internal error: no session for {connectionLabel id}"
  | .roomVanished id => s!"internal error: room {roomLabel id} vanished"
  | .noGame id => s!"internal error: room {roomLabel id} has no game"

/-- Why a session is ended. -/
inductive EndReason
  | error (error : ServerError)
  /-- The connection was silent for too long. -/
  | silence
  /-- Somebody asked for it, for a reason of their own. -/
  | asked (reason : String)
  deriving DecidableEq, Repr

def EndReason.message : EndReason → String
  | error cause => cause.message
  | silence => "liveness timeout"
  | asked reason => reason

/-- Why a connection is to be closed. -/
inductive ClosingCause
  /-- There were too many clients already. -/
  | refused
  /-- Another connection took over its player. -/
  | replaced
  /-- Its session, under this nickname if it had one, was ended. -/
  | ended (nickname : Option String) (reason : EndReason)
  /-- It had no session. -/
  | unknown
  deriving DecidableEq, Repr

structure Closing where
  connection : ConnectionId
  cause : ClosingCause
  deriving DecidableEq, Repr

/-- Everything the server knows. -/
structure Server where
  config : ServerConfig
  sessions : Sessions
  lobby : Lobby
  nextPlayer : PlayerId
  closings : List Closing
  /-- What was said in the call under way, the newest at the head. It stays as the record of the call
  until the next one. -/
  said : List Delivery

namespace Server

/-- A server without clients. The deals are the chance of the games to come. -/
def start (config : ServerConfig) (deals : List Deal) : Server where
  config := config
  sessions := .vacant config.session
  lobby := .vacant config.maxRooms config.room deals
  nextPlayer := 1
  closings := []
  said := []

/-! ## Looking things up -/

/-- Who a connection is and where it sits, if it sits in a room. -/
def seated? (server : Server) (id : ConnectionId) : Option (Identity × RoomId) := do
  let session ← server.sessions.get? id
  let room ← session.location.room?
  let identity ← session.identity
  return (identity, room)

/-- The session that carries a player. -/
def carrier? (server : Server) (player : PlayerId) : Option Session := do
  server.sessions.get? (← server.sessions.findPlayer? player)

def nicknameOf? (server : Server) (player : PlayerId) : Option String := do
  (← server.carrier? player).nickname?

/-- How the others see a player. -/
def occupant? (server : Server) (player : PlayerId) : Option Occupant := do
  let session ← server.carrier? player
  return { nickname := ← session.nickname?, awake := session.isAwake }

def roomView? (server : Server) (room : RoomId) : Option RoomView :=
  (server.lobby.room? room).map (·.view server.occupant?)

def game? (server : Server) (room : RoomId) : Option Game := do
  (← server.lobby.room? room).game?

/-- Whose turn it is in a room. -/
def turnView? (server : Server) (room : RoomId) : Option TurnView := do
  let game ← server.game? room
  return { nickname := ← server.nicknameOf? (← game.currentPlayer?), top := game.top }

/-! ## Saying things -/

/-- What was said in the call under way, or in the last one when none is, in order. -/
def mail (server : Server) : List Delivery :=
  server.said.reverse

/-- Says something to a connection. -/
def tell (server : Server) (id : ConnectionId) (notice : Notice) : Server :=
  { server with said := { connection := id, notice } :: server.said }

@[simp]
theorem mail_tell (server : Server) (id : ConnectionId) (notice : Notice) :
    (server.tell id notice).mail = server.mail ++ [{ connection := id, notice }] :=
  List.reverse_cons

/-- Says something to a player, if anybody carries the player. -/
def tellPlayer (server : Server) (player : PlayerId) (notice : Notice) : Server :=
  match server.sessions.findPlayer? player with
  | some id => server.tell id notice
  | none => server

/-- Says something to several players, one after the other. -/
def tellPlayers (server : Server) (players : List PlayerId) (notice : PlayerId → Notice) :
    Server :=
  players.foldl (fun server player => server.tellPlayer player (notice player)) server

/-- The players of a room in seating order, without the one who is excepted. -/
def audience (server : Server) (room : RoomId) (except : Option PlayerId) : List PlayerId :=
  match server.lobby.room? room with
  | some room => room.players.filter fun player => except ≠ some player
  | none => []

/-- Says something to everybody in a room except one. -/
def tellRoom (server : Server) (room : RoomId) (notice : Notice)
    (except : Option PlayerId) : Server :=
  server.tellPlayers (server.audience room except) fun _ => notice

/-- Tells a room whose turn it is, if it is anybody's. -/
def tellTurn (server : Server) (room : RoomId) : Server :=
  match server.turnView? room with
  | some turn => server.tellRoom room (.turn turn) none
  | none => server

/-- Tells a room that somebody is back. -/
def tellWake (server : Server) (id : ConnectionId) : Server :=
  match server.seated? id with
  | some (identity, room) => server.tellRoom room (.awake identity.nickname) (some identity.player)
  | none => server

/-- Queues what was said in this call at the sessions. -/
def handOver (server : Server) : Server :=
  { server with sessions := server.sessions.deliver server.mail }

/-- One call from outside: what is said while it lasts is queued when it ends. -/
def during (server : Server) (call : Server → Server) : Server :=
  (call { server with said := [] }).handOver

/-! ## Small changes -/

def move (server : Server) (id : ConnectionId) (location : Location) : Server :=
  { server with sessions := server.sessions.modify id fun session => { session with location } }

def close (server : Server) (connection : ConnectionId) (cause : ClosingCause) : Server :=
  { server with closings := server.closings ++ [{ connection, cause }] }

/-- Puts a changed game in the place of the one that is on in a room. -/
def putGame (server : Server) (room : Room) (game : Game) : Server :=
  { server with lobby := server.lobby.put { room with stage := .playing game } }

end Server

end CardTable
