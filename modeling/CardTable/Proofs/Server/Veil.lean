import CardTable.Proofs.Room.Veil
import CardTable.Proofs.Server.Books

/-!
# Veils over servers

What can be looked up in a server is the same through a veil, what is said is the same, and whatever a
request changes can be changed behind the veil.
-/

namespace CardTable.Veil

variable (veil : Veil)

/-! ## Sessions -/

/-- The session of a connection with what is different in it. -/
def session (id : ConnectionId) (session : Session) : Session :=
  { session with
    incoming := veil.incoming id session.incoming
    outgoing := veil.outgoing id session.outgoing }

def sessions (sessions : Sessions) : Sessions :=
  { sessions with
    config := veil.config sessions.config
    live := sessions.live.mapEntries veil.session }

section Register

variable (sessions : Sessions)

@[simp]
theorem get?_sessions (id : ConnectionId) :
    (veil.sessions sessions).get? id = (sessions.get? id).map (veil.session id) :=
  Directory.get?_mapEntries _ _ _

@[simp]
theorem findName?_sessions (nickname : String) :
    (veil.sessions sessions).findName? nickname = sessions.findName? nickname := rfl

@[simp]
theorem findPlayer?_sessions (player : PlayerId) :
    (veil.sessions sessions).findPlayer? player = sessions.findPlayer? player := rfl

theorem modify_sessions {change : Session → Session}
    (same : ∀ id session, change (veil.session id session) = veil.session id (change session))
    (id : ConnectionId) :
    (veil.sessions sessions).modify id change = veil.sessions (sessions.modify id change) := by
  have live := @Directory.modify_mapEntries _ _ _ sessions.live veil.session _ _ _ _ id change change
    fun session _ => same id session
  exact congrArg (fun live => { veil.sessions sessions with live }) live

theorem put_sessions {id : ConnectionId} {session : Session} (filed : session.id = id) :
    (veil.sessions sessions).put (veil.session id session) =
      veil.sessions (sessions.put session) := by
  subst filed
  have live := @Directory.modify_mapEntries _ _ _ sessions.live veil.session _ _ _ _ session.id
    (fun _ => session) (fun _ => veil.session session.id session) fun _ _ => rfl
  exact congrArg (fun live => { veil.sessions sessions with live }) live

theorem close_sessions (id : ConnectionId) :
    (veil.sessions sessions).close id =
      Prod.map (Option.map (veil.session id)) veil.sessions (sessions.close id) := by
  have live := sessions.live.erase_mapEntries veil.session id
  unfold Sessions.close
  rw [get?_sessions]
  cases sessions.get? id with
  | none => rfl
  | some session =>
    simp only [Option.map_some, Veil.sessions, live]
    rfl

variable {sessions} {id : ConnectionId}

theorem name_sessions (filed : ∀ session, sessions.get? id = some session → session.id = id)
    (identity : Identity) : (veil.sessions sessions).name id identity =
      (sessions.name id identity).map veil.sessions := by
  have taken : (veil.sessions sessions).byName.contains identity.nickname =
      sessions.byName.contains identity.nickname := rfl
  unfold Sessions.name
  rw [get?_sessions, taken]
  split
  · rfl
  · cases found : sessions.get? id with
    | none => rfl
    | some session =>
      have own := filed session found
      simp only [Option.map_some, Session.assign, Veil.session]
      cases session.identity with
      | some _ => rfl
      | none =>
        let named : Session := { session with identity := some identity, location := .lobby }
        have put := veil.put_sessions sessions (show named.id = id from own)
        exact congrArg (fun sessions => Except.ok (sessions.enter id identity)) put

theorem reclaim_sessions (filed : ∀ session, sessions.get? id = some session → session.id = id)
    (owner : ConnectionId) : (veil.sessions sessions).reclaim owner id =
      (sessions.reclaim owner id).map (Prod.map (veil.session owner) veil.sessions) := by
  unfold Sessions.reclaim
  rw [get?_sessions, get?_sessions]
  cases found : sessions.get? id with
  | none => rfl
  | some heir =>
    simp only [Option.map_some]
    have identity : (veil.session id heir).identity = heir.identity := rfl
    rw [identity]
    split
    · rfl
    · cases sessions.get? owner with
      | none => rfl
      | some previous =>
        simp only [Option.map_some]
        split
        · rfl
        · have own : (heir.inherit previous).id = id := filed heir found
          have live := sessions.live.erase_mapEntries veil.session owner
          have put := veil.put_sessions { sessions with live := sessions.live.erase owner } own
          have identity' : (veil.session owner previous).identity = previous.identity := rfl
          rw [Veil.sessions, ← live] at put
          simp only [identity']
          cases previous.identity with
          | none =>
            exact congrArg (fun moved => Except.ok (veil.session owner previous.stripped, moved)) put
          | some identity =>
            exact congrArg (fun moved : Sessions =>
              Except.ok (veil.session owner previous.stripped, moved.enter id identity)) put

end Register

/-! ## What can be looked up -/

/-- The server with what is different in it. -/
def server (server : Server) : Server :=
  { server with
    sessions := veil.sessions server.sessions
    lobby := veil.lobby server.lobby
    said := server.said ++ veil.earlier }

section LookUps

variable (server : Server) (id : ConnectionId) (number : RoomId)

@[simp]
theorem seated?_server : (veil.server server).seated? id = server.seated? id := by
  simp only [Server.seated?, Veil.server, get?_sessions]
  cases server.sessions.get? id <;> rfl

theorem carrier?_server (player : PlayerId) : (veil.server server).carrier? player =
    (server.sessions.findPlayer? player).bind fun id =>
      (server.sessions.get? id).map (veil.session id) := by
  simp only [Server.carrier?, Veil.server, findPlayer?_sessions]
  cases server.sessions.findPlayer? player with
  | none => rfl
  | some id => exact veil.get?_sessions server.sessions id

@[simp]
theorem nicknameOf?_server : (veil.server server).nicknameOf? = server.nicknameOf? := by
  funext player
  simp only [Server.nicknameOf?, carrier?_server]
  cases led : server.sessions.findPlayer? player with
  | none => simp [Server.carrier?, led]
  | some id =>
    cases found : server.sessions.get? id <;>
      simp [Server.carrier?, led, found, Veil.session, Session.nickname?]

@[simp]
theorem occupant?_server : (veil.server server).occupant? = server.occupant? := by
  funext player
  simp only [Server.occupant?, carrier?_server]
  cases led : server.sessions.findPlayer? player with
  | none => simp [Server.carrier?, led]
  | some id =>
    cases found : server.sessions.get? id <;>
      simp [Server.carrier?, led, found, Veil.session, Session.nickname?, Session.isAwake]

@[simp]
theorem room?_server :
    (veil.server server).lobby.room? number = (server.lobby.room? number).map veil.room :=
  room?_lobby _ _ _

@[simp]
theorem roomView?_server : (veil.server server).roomView? number = server.roomView? number := by
  simp only [Server.roomView?, room?_server, occupant?_server]
  cases server.lobby.room? number with
  | none => rfl
  | some room => exact congrArg some (veil.view_room room _)

@[simp]
theorem turnView?_server : (veil.server server).turnView? number = server.turnView? number := by
  simp only [Server.turnView?, Server.game?, room?_server, nicknameOf?_server]
  cases server.lobby.room? number with
  | none => rfl
  | some room =>
    simp only [Option.map_some, Option.bind_eq_bind, Option.bind_some, game?_room]
    cases room.game? with
    | none => rfl
    | some game => simp

@[simp]
theorem audience_server (except : Option PlayerId) :
    (veil.server server).audience number except = server.audience number except := by
  simp only [Server.audience, room?_server]
  cases server.lobby.room? number <;> rfl

/-! ## What is said -/

theorem saying_server (mail : List Delivery) :
    (veil.server server).saying mail = veil.server (server.saying mail) := by
  simp [Server.saying, Veil.server]

theorem tell_server (notice : Notice) :
    (veil.server server).tell id notice = veil.server (server.tell id notice) := rfl

theorem tellPlayers_server (players : List PlayerId) (notice : PlayerId → Notice) :
    (veil.server server).tellPlayers players notice =
      veil.server (server.tellPlayers players notice) := by
  rw [Server.tellPlayers_eq_saying, Server.tellPlayers_eq_saying]
  exact veil.saying_server server _

theorem tellRoom_server (notice : Notice) (except : Option PlayerId) :
    (veil.server server).tellRoom number notice except =
      veil.server (server.tellRoom number notice except) := by
  rw [Server.tellRoom, Server.tellRoom, audience_server, tellPlayers_server]

theorem tellTurn_server :
    (veil.server server).tellTurn number = veil.server (server.tellTurn number) := by
  rw [Server.tellTurn, Server.tellTurn, turnView?_server]
  split
  · exact veil.tellRoom_server _ _ _ _
  · rfl

theorem tellWake_server : (veil.server server).tellWake id = veil.server (server.tellWake id) := by
  rw [Server.tellWake, Server.tellWake, seated?_server]
  split
  · exact veil.tellRoom_server _ _ _ _
  · rfl

/-! ## Small changes -/

theorem move_server (location : Location) :
    (veil.server server).move id location = veil.server (server.move id location) := by
  let change (session : Session) : Session := { session with location }
  have sessions := veil.modify_sessions server.sessions (show ∀ id session,
    change (veil.session id session) = veil.session id (change session) from fun _ _ => rfl) id
  exact congrArg (fun sessions => { veil.server server with sessions }) sessions

theorem putGame_server (room : Room) (game : Game) :
    (veil.server server).putGame (veil.room room) (veil.game room.id game) =
      veil.server (server.putGame room game) := by
  have put := veil.put_lobby server.lobby { room with stage := .playing game }
  exact congrArg (fun lobby => { veil.server server with lobby }) put

end LookUps

/-! ## The end of a game -/

variable {veil} {server : Server} {id : ConnectionId} {number : RoomId} {room : Room}

theorem finishGame_server (found : server.lobby.room? number = some room)
    (suits : veil.Suits room) (ending : Server.Ending) :
    (veil.server server).finishGame number ending =
      veil.server (server.finishGame number ending) := by
  have concluded : (veil.room room).conclude.2 = veil.room room.conclude.2 := by
    rw [conclude_room]
    rfl
  let ended : Server := { server with lobby := server.lobby.put room.conclude.2 }
  have put : ({ veil.server server with
      lobby := (veil.server server).lobby.put (veil.room room.conclude.2) } : Server) =
        veil.server ended :=
    congrArg (fun lobby => { veil.server server with lobby })
      (veil.put_lobby server.lobby room.conclude.2)
  simp only [Server.finishGame, found, room?_server, Option.map_some, concluded, put, game?_room]
  cases has : room.conclude.2.game? with
  | none => rfl
  | some game =>
    have holds : veil.Holds room.conclude.2.id game := suits.conclude.holds has
    simp only [Option.map_some, players_room, any_hand?_game holds, standings_game holds,
      tellPlayers_server, nicknameOf?_server, tellRoom_server, ended]

end CardTable.Veil
