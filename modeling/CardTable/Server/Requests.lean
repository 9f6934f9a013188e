import CardTable.Server.Basic

/-!
# Serving requests

What the server does for each request. Every request first asks whether its sender stands where the
request may be made; one made elsewhere is a violation, and costs the sender the connection. That a
room or the lobby is full is an ordinary answer.
-/

namespace CardTable

/-- A request that failed: why, and the server it leaves behind. -/
structure Failure where
  cause : ServerError
  server : Server

/-- The server after a request, or the failure of the request. -/
abbrev Outcome := Except Failure Server

namespace Server

/-- The request fails, and the server is left as it is. -/
def fail (server : Server) (cause : ServerError) : Outcome :=
  .error { cause, server }

/-- Goes on if the check passes, and fails otherwise. -/
def checked {α : Type} (server : Server) (check : Except ServerError α) (next : α → Outcome) :
    Outcome :=
  match check with
  | .ok value => next value
  | .error cause => server.fail cause

/-! ## Where a request may be made -/

/-- Who sends the request, and from where. -/
def sender (server : Server) (id : ConnectionId) (verb : Verb) :
    Except ServerError (Identity × Location) :=
  match server.sessions.get? id with
  | none => .error (.noSession id)
  | some session =>
    match session.identity with
    | some identity => .ok (identity, session.location)
    | none => .error (.violation (.beforeName verb))

def inLobby (server : Server) (id : ConnectionId) (verb : Verb) : Except ServerError Identity := do
  match ← server.sender id verb with
  | (identity, .lobby) => return identity
  | (_, location) => throw (.violation (.outsideLobby verb location))

/-- The sender and the room the sender has to be in. -/
def inRoom (server : Server) (id : ConnectionId) (verb : Verb) :
    Except ServerError (Identity × RoomId) := do
  let (identity, location) ← server.sender id verb
  match location.room? with
  | some room => return (identity, room)
  | none => throw (.violation (.outsideRoom verb))

/-- A sender who is in a game that is on. -/
structure Playing where
  identity : Identity
  room : Room
  game : Game

/-- Whether there is a room with a game that is on. -/
def isPlaying (server : Server) (number : RoomId) : Bool :=
  (server.lobby.room? number).any fun room => room.state.IsActive ∧ room.game?.isSome

/-- The game of a room, which is looked up again once it is known to be on. -/
def gameIn (server : Server) (number : RoomId) : Except ServerError (Room × Game) :=
  match server.lobby.room? number with
  | none => .error (.noGame number)
  | some room =>
    match room.game? with
    | none => .error (.noGame number)
    | some game => .ok (room, game)

/-- The sender, who has to be in a game that is on. -/
def inGame (server : Server) (id : ConnectionId) (verb : Verb) : Except ServerError Playing := do
  match ← server.sender id verb with
  | (identity, .game number) =>
    if server.isPlaying number then
      let (room, game) ← server.gameIn number
      return { identity, room, game }
    else throw (.violation (.afterGame verb))
  | _ => throw (.violation (.outsideGame verb))

/-- Goes on with the sender in a new place. The sender's session is looked up again. -/
def relocate (server : Server) (id : ConnectionId) (location : Location)
    (next : Server → Outcome) : Outcome :=
  match server.sessions.get? id with
  | some _ => next (server.move id location)
  | none => server.fail (.noSession id)

/-! ## The end of a game -/

/-- How a game came to its end. -/
inductive Ending
  /-- Somebody emptied a hand. -/
  | played
  | forfeit
  deriving DecidableEq, Repr

/-- What is said to a player who still holds cards: lost after a play, won when the others left. -/
def Ending.verdict : Ending → Notice
  | played => .lose
  | forfeit => .win

/-- Ends the game of a room: whoever still holds cards hears the verdict, and then everybody hears
the ranking. -/
def finishGame (server : Server) (number : RoomId) (ending : Ending) : Server :=
  match server.lobby.room? number with
  | none => server
  | some room =>
    let closed := room.conclude.2
    let server := { server with lobby := server.lobby.put closed }
    match closed.game? with
    | none => server
    | some game =>
      let holders := closed.players.filter fun player => (game.hand? player).any (· ≠ [])
      let server := server.tellPlayers holders fun _ => ending.verdict
      server.tellRoom number (.leaderboard (game.standings.filterMap server.nicknameOf?)) none

/-- Takes a player out of a room and tells the others. A room that is empty now is closed, a game
that is over now is ended, and in a game that goes on everybody hears whose turn it is. -/
def depart (server : Server) (identity : Identity) (number : RoomId) : Except RoomError Server :=
  match server.lobby.leave number identity.player with
  | .error error => .error error
  | .ok (departure, lobby) =>
    let server := { server with lobby }.tellRoom number (.leave identity.nickname) none
    match departure with
    | .emptied => .ok { server with lobby := server.lobby.remove number }
    | .endedGame => .ok (server.finishGame number .forfeit)
    | .stayed =>
      let playing := (server.lobby.room? number).any fun room => room.state = .playing
      .ok (if playing then server.tellTurn number else server)

/-! ## Names -/

/-- Takes a nickname. One that belongs to a sleeper goes over to the sender together with all that
the sleeper had; one that belongs to somebody awake is refused. -/
def serveName (server : Server) (id : ConnectionId) (nickname : String) : Outcome :=
  match server.sessions.get? id with
  | none => server.fail (.noSession id)
  | some session =>
    if session.location ≠ .unnamed then server.fail (.violation .nameTwice)
    else
      match server.sessions.findName? nickname with
      | some owner =>
        if (server.sessions.get? owner).any fun holder => !holder.isAwake then
          match server.sessions.reclaim owner id with
          | .error error => server.fail (.session error)
          | .ok (previous, sessions) =>
            .ok ((({ server with sessions }.close previous.id .replaced).tell id
              (.ok .name)).tellWake id)
        else .ok (server.tell id (.fail .name))
      | none =>
        let player := server.nextPlayer
        let server := { server with nextPlayer := player + 1 }
        match server.sessions.name id { nickname, player } with
        | .error error => server.fail (.session error)
        | .ok sessions => .ok ({ server with sessions }.tell id (.ok .name))

/-! ## The lobby -/

def serveListRooms (server : Server) (id : ConnectionId) : Outcome :=
  server.checked (server.inLobby id .listRooms) fun _ =>
    .ok (server.tell id (.rooms server.lobby.summaries))

/-- Deals the game of a room whose last seat has been taken: everybody hears that it starts, then
what is in the own hand, then whose turn it is. -/
def startIfFull (server : Server) (number : RoomId) : Outcome :=
  match server.lobby.find number with
  | .error error => server.fail (.room error)
  | .ok room =>
    if ¬room.IsFull ∨ ¬room.state.IsJoinable then .ok server
    else
      match server.lobby.start number with
      | .error error => server.fail (.room error)
      | .ok lobby =>
        let seated := room.players.filterMap server.sessions.findPlayer?
        let server := seated.foldl (fun server id => server.move id (.game number))
          { server with lobby }
        let server := server.tellRoom number .gameStart none
        let hand player := ((server.game? number).bind (·.hand? player)).getD []
        .ok ((server.tellPlayers room.players fun player => .hand (hand player)).tellTurn number)

def serveCreateRoom (server : Server) (id : ConnectionId) : Outcome :=
  server.checked (server.inLobby id .createRoom) fun identity =>
    match server.lobby.create with
    | .error _ => .ok (server.tell id (.fail .createRoom))
    | .ok (number, created) =>
      match created.join number identity.player with
      | .error error => { server with lobby := created.remove number }.fail (.room error)
      | .ok lobby =>
        { server with lobby }.relocate id (.room number) fun server =>
          (server.tell id (.ok .createRoom)).startIfFull number

def serveJoinRoom (server : Server) (id : ConnectionId) (number : RoomId) : Outcome :=
  server.checked (server.inLobby id .joinRoom) fun identity =>
    match server.lobby.join number identity.player with
    | .error _ => .ok (server.tell id (.fail .joinRoom))
    | .ok lobby =>
      { server with lobby }.relocate id (.room number) fun server =>
        ((server.tell id (.ok .joinRoom)).tellRoom number (.join identity.nickname)
          (some identity.player)).startIfFull number

/-! ## Rooms -/

def serveLeaveRoom (server : Server) (id : ConnectionId) : Outcome :=
  server.checked (server.inRoom id .leaveRoom) fun (identity, number) =>
    match server.depart identity number with
    | .error error => server.fail (.room error)
    | .ok server =>
      server.relocate id .lobby fun server => .ok (server.tell id (.ok .leaveRoom))

def serveRoomInfo (server : Server) (id : ConnectionId) : Outcome :=
  server.checked (server.inRoom id .roomInfo) fun (_, number) =>
    match server.roomView? number with
    | some view => .ok (server.tell id (.room view))
    | none => server.fail (.roomVanished number)

/-- All that a session may see of the place where it stands. -/
def snapshot (server : Server) (session : Session) : Except ServerError Snapshot :=
  match session.location with
  | .unnamed => .ok .unnamed
  | .lobby => .ok .lobby
  | .room number =>
    match server.roomView? number with
    | some view => .ok (.room view)
    | none => .error (.roomVanished number)
  | .game number =>
    match server.roomView? number with
    | some view =>
      let hand := do (← server.game? number).hand? (← session.player?)
      .ok (.game view (hand.getD []) (server.turnView? number))
    | none => .error (.roomVanished number)

/-- Shows the sender where the sender stands. This may be asked anywhere. -/
def serveState (server : Server) (id : ConnectionId) : Outcome :=
  match server.sessions.get? id with
  | none => server.fail (.noSession id)
  | some session =>
    server.checked (server.snapshot session) fun view => .ok (server.tell id (.state view))

/-! ## Games -/

/-- Tells the sender which cards were drawn, and the others how many. -/
def tellDraw (server : Server) (id : ConnectionId) (playing : Playing) (cards : List Card) :
    Server :=
  (server.tell id (.cards cards)).tellRoom playing.room.id
    (.drew playing.identity.nickname cards.length) (some playing.identity.player)

def servePlay (server : Server) (id : ConnectionId) (card : Card) : Outcome :=
  server.checked (server.inGame id .play) fun playing =>
    match playing.game.play playing.identity.player card with
    | .error error => server.fail (.game error)
    | .ok (played, game) =>
      let number := playing.room.id
      let server := ((server.putGame playing.room game).tell id (.ok .play)).tellRoom number
        (.played playing.identity.nickname card) (some playing.identity.player)
      let server := if played.emptiedHand then server.tell id .win else server
      .ok (if played.finished then server.finishGame number .played else server.tellTurn number)

def serveDraw (server : Server) (id : ConnectionId) : Outcome :=
  server.checked (server.inGame id .draw) fun playing =>
    match playing.game.drawCard playing.identity.player with
    | .error error => server.fail (.game error)
    | .ok (cards, game) =>
      .ok (((server.putGame playing.room game).tellDraw id playing cards).tellTurn playing.room.id)

/-- Gives in to what is pending. -/
def servePass (server : Server) (id : ConnectionId) : Outcome :=
  server.checked (server.inGame id .pass) fun playing =>
    match playing.game.pass playing.identity.player with
    | .error error => server.fail (.game error)
    | .ok (passed, game) =>
      let server := server.putGame playing.room game
      let server := match passed with
        | .skipped => server.tellRoom playing.room.id (.skip playing.identity.nickname) none
        | .drew cards => server.tellDraw id playing cards
      .ok (server.tellTurn playing.room.id)

/-! ## All requests -/

def serve (server : Server) (id : ConnectionId) : Request → Outcome
  | .ok | .pong => .ok server
  | .name nickname => server.serveName id nickname
  | .listRooms => server.serveListRooms id
  | .joinRoom number => server.serveJoinRoom id number
  | .createRoom => server.serveCreateRoom id
  | .leaveRoom => server.serveLeaveRoom id
  | .roomInfo => server.serveRoomInfo id
  | .state => server.serveState id
  | .play card => server.servePlay id card
  | .draw => server.serveDraw id
  | .pass => server.servePass id

def dispatch (server : Server) (id : ConnectionId) (frame : Wire.Frame) : Outcome :=
  if (server.sessions.get? id).isNone then server.fail (.noSession id)
  else
    match Request.ofWords frame with
    | .ok request => server.serve id request
    | .error error => server.fail (.session (.protocol error))

end Server

end CardTable
