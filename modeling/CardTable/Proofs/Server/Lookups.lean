import CardTable.Proofs.Server.Saying

/-!
# Looking things up again

Serving a request, the server looks up again what the request was found to be allowed for: the
sender's session before it is moved, and the game before a move is tried in it. Nothing that happens
in between takes either away, so what it finds is what was there before.
-/

namespace CardTable.Server

variable {server next : Server} {id : ConnectionId} {verb : Verb} {identity : Identity}
  {number : RoomId}

/-! ## What was found before -/

theorem checked_congr {α : Type} {check : Except ServerError α} {serve serve' : α → Outcome}
    (same : ∀ value, check = .ok value → serve value = serve' value) :
    server.checked check serve = server.checked check serve' := by
  cases passed : check with
  | error cause => rfl
  | ok value => exact same value passed

/-- Whoever may ask for something has a session. -/
theorem sender_eq_ok {location : Location}
    (sent : server.sender id verb = .ok (identity, location)) :
    ∃ session, server.sessions.get? id = some session ∧ session.identity = some identity ∧
      session.location = location := by
  unfold sender at sent
  split at sent
  · cases sent
  · next session found =>
    split at sent
    · next owner carries =>
      cases sent
      exact ⟨session, found, carries, rfl⟩
    · cases sent

theorem exists_sender_of_bind {α : Type} {next : Identity × Location → Except ServerError α}
    {value : α} (allowed : (server.sender id verb >>= next) = .ok value) :
    ∃ session, server.sessions.get? id = some session := by
  rcases Game.bind_eq_ok allowed with ⟨who, sent, _⟩
  rcases sender_eq_ok sent with ⟨session, found, _⟩
  exact ⟨session, found⟩

theorem relocate_of_get? {session : Session} (found : server.sessions.get? id = some session)
    (location : Location) (next : Server → Outcome) :
    server.relocate id location next = next (server.move id location) := by
  rw [relocate, found]

/-! ## Departures and sessions -/

theorem sessions_finishGame (server : Server) (number : RoomId) (ending : Ending) :
    (server.finishGame number ending).sessions = server.sessions := by
  simp only [finishGame, tellRoom_eq_saying, tellPlayers_eq_saying]
  split
  · rfl
  · split <;> rfl

theorem sessions_depart {identity : Identity} {number : RoomId}
    (left : server.depart identity number = .ok next) : next.sessions = server.sessions := by
  simp only [depart, tellRoom_eq_saying, tellTurn_eq_saying] at left
  split at left
  · cases left
  · split at left
    · cases left
      rfl
    · cases left
      exact sessions_finishGame _ _ _
    · cases left
      split <;> rfl

/-! ## Requests -/

/-- A room whose game is on has the game, so whoever sits there is in it. -/
theorem inGame_eq (server : Server) (id : ConnectionId) (verb : Verb) :
    server.inGame id verb = (do
      match ← server.sender id verb with
      | (identity, .game number) =>
        match server.lobby.room? number with
        | some room =>
          match room.stage with
          | .playing game => return { identity, room, game }
          | _ => throw (.violation (.afterGame verb))
        | none => throw (.violation (.afterGame verb))
      | _ => throw (.violation (.outsideGame verb))) := by
  rw [inGame]
  refine bind_congr fun who => ?_
  rcases who with ⟨identity, _ | _ | _ | number⟩
  · rfl
  · rfl
  · rfl
  · cases sought : server.lobby.room? number with
    | none => simp [isPlaying, sought]
    | some room =>
      cases stage : room.stage with
      | waiting => simp [isPlaying, sought, Room.state, Room.game?, stage, Stage.game?]
      | playing game =>
        simp [isPlaying, gameIn, sought, Room.state, Room.game?, stage, Stage.state, Stage.game?,
          RoomState.IsActive]
        rfl
      | finished game =>
        simp [isPlaying, sought, Room.state, stage, Stage.state, RoomState.IsActive]

/-- Opening a room and taking a seat leave the sessions alone, so the sender is still there. -/
theorem serveCreateRoom_eq (server : Server) (id : ConnectionId) :
    server.serveCreateRoom id = server.checked (server.inLobby id .createRoom) fun identity =>
      match server.lobby.create with
      | .error _ => .ok (server.tell id (.fail .createRoom))
      | .ok (number, created) =>
        match created.join number identity.player with
        | .error error => { server with lobby := created.remove number }.fail (.room error)
        | .ok lobby =>
          (({ server with lobby }.move id (.room number)).tell id (.ok .createRoom)).startIfFull
            number := by
  refine checked_congr fun identity allowed => ?_
  rcases exists_sender_of_bind allowed with ⟨session, found⟩
  cases server.lobby.create with
  | error _ => rfl
  | ok opened =>
    rcases opened with ⟨number, created⟩
    dsimp only
    cases created.join number identity.player with
    | error _ => rfl
    | ok lobby =>
      apply relocate_of_get?
      exact found

theorem serveJoinRoom_eq (server : Server) (id : ConnectionId) (number : RoomId) :
    server.serveJoinRoom id number = server.checked (server.inLobby id .joinRoom) fun identity =>
      match server.lobby.join number identity.player with
      | .error _ => .ok (server.tell id (.fail .joinRoom))
      | .ok lobby =>
        ((({ server with lobby }.move id (.room number)).tell id (.ok .joinRoom)).tellRoom number
          (.join identity.nickname) (some identity.player)).startIfFull number := by
  refine checked_congr fun identity allowed => ?_
  rcases exists_sender_of_bind allowed with ⟨session, found⟩
  cases server.lobby.join number identity.player with
  | error _ => rfl
  | ok lobby =>
    apply relocate_of_get?
    exact found

/-- Whoever leaves a room is still there to go to the lobby. -/
theorem serveLeaveRoom_eq (server : Server) (id : ConnectionId) :
    server.serveLeaveRoom id = server.checked (server.inRoom id .leaveRoom)
      fun (identity, number) =>
        match server.depart identity number with
        | .error error => server.fail (.room error)
        | .ok server => .ok ((server.move id .lobby).tell id (.ok .leaveRoom)) := by
  refine checked_congr fun who allowed => ?_
  rcases exists_sender_of_bind allowed with ⟨session, found⟩
  rcases who with ⟨identity, number⟩
  dsimp only
  cases left : server.depart identity number with
  | error _ => rfl
  | ok rest =>
    rw [← sessions_depart left] at found
    exact relocate_of_get? found .lobby _

end CardTable.Server
