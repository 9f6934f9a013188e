import CardTable.Proofs.Server.Veiled

/-!
# Requests behind a veil

Serving a frame behind a veil does what serving it without the veil does, and the veil stays over the
result. All that is asked is that the connection that is served does not carry the player whose hand
is hidden. The same goes for ending a session.
-/

namespace CardTable

namespace Server

/-- None of the frames is served while its connection carries the player. -/
def Quiet (player : PlayerId) (id : ConnectionId) : Server → List Wire.Frame → Prop
  | _, [] => True
  | server, frame :: later =>
    server.player? id ≠ some player ∧
      ∀ next ∈ (server.dispatch id frame).toOption, next.Quiet player id later

instance decidableQuiet (player : PlayerId) (id : ConnectionId) :
    ∀ server frames, Decidable (Quiet player id server frames)
  | _, [] => inferInstanceAs (Decidable True)
  | _, _ :: later =>
    have rest next := decidableQuiet player id next later
    have := @Option.decidableForallMem _ (Quiet player id · later) rest
    inferInstanceAs (Decidable (_ ∧ _))

theorem player?_of_seated? {server : Server} {id : ConnectionId} {identity : Identity}
    {number : RoomId} (seated : server.seated? id = some (identity, number)) :
    server.player? id = some identity.player := by
  rcases seated?_eq_some seated with ⟨session, found, carries, _⟩
  simp [player?, found, Session.player?, carries]

end Server

namespace Veil

variable {veil : Veil} {server : Server} {id : ConnectionId}

/-! ## Requests -/

theorem hand?_server {player : PlayerId} (blind : veil.Blind player) (number : RoomId) :
    ((veil.server server).game? number).bind (·.hand? player) =
      (server.game? number).bind (·.hand? player) := by
  simp only [Server.game?, room?_server]
  cases server.lobby.room? number with
  | none => rfl
  | some room =>
    simp only [Option.map_some, Option.bind_eq_bind, Option.bind_some, game?_room]
    cases room.game? with
    | none => rfl
    | some game => exact hand?_game blind

theorem game?_of_playing {room : Room} {game : Game} (stage : room.stage = .playing game) :
    room.game? = some game := by
  rw [Room.game?, stage]
  rfl

theorem snapshot_server {session : Session}
    (blind : ∀ player ∈ session.player?, veil.Blind player) :
    (veil.server server).snapshot (veil.session id session) = server.snapshot session := by
  have location : (veil.session id session).location = session.location := rfl
  have player : (veil.session id session).player? = session.player? := rfl
  unfold Server.snapshot
  rw [location, player]
  simp only [roomView?_server, turnView?_server]
  split
  · rfl
  · rfl
  · rfl
  · next number _ =>
    cases owner : session.player? with
    | none =>
      have nothing (game? : Option Game) :
          (do (← game?).hand? (← (none : Option PlayerId)) : Option (List Card)) = none := by
        cases game? <;> rfl
      rw [nothing, nothing]
    | some player =>
      have hands := @hand?_server _ server _ (blind player owner) number
      simp only [Option.bind_eq_bind, Option.bind_some, hands]

section Requests

variable (linked : server.Linked) (covers : veil.Covers server.lobby)

include linked covers

theorem follows_name (nickname : String) :
    veil.Follows (server.serveName id nickname) ((veil.server server).serveName id nickname) := by
  have filed : ∀ session, server.sessions.get? id = some session → session.id = id :=
    fun _ found => linked.indexed.filed found
  have looked (asked : ConnectionId) : (veil.server server).sessions.get? asked = _ :=
    veil.get?_sessions server.sessions asked
  have names : (veil.server server).sessions.findName? nickname = _ :=
    veil.findName?_sessions server.sessions nickname
  unfold Server.serveName
  rw [looked, names]
  cases found : server.sessions.get? id with
  | none => exact follows_fail covers _
  | some session =>
    have location : (veil.session id session).location = session.location := rfl
    simp only [Option.map_some, location]
    split
    · exact follows_fail covers _
    · cases led : server.sessions.findName? nickname with
      | none =>
        have issued : (veil.server server).nextPlayer = server.nextPlayer := rfl
        have named := veil.name_sessions filed { nickname, player := server.nextPlayer }
        change (veil.server server).sessions.name id _ = _ at named
        simp only [issued, named]
        cases server.sessions.name id { nickname, player := server.nextPlayer } with
        | error error => exact ⟨rfl, covers⟩
        | ok sessions => exact ⟨rfl, covers⟩
      | some owner =>
        have asleep : ((veil.server server).sessions.get? owner).any (fun holder => !holder.isAwake) =
            (server.sessions.get? owner).any fun holder => !holder.isAwake := by
          rw [looked, Option.any_map]
          rfl
        have taken := veil.reclaim_sessions filed owner
        change (veil.server server).sessions.reclaim owner id = _ at taken
        simp only [asleep, taken]
        split
        · cases server.sessions.reclaim owner id with
          | error error => exact follows_fail covers _
          | ok both =>
            rcases both with ⟨previous, sessions⟩
            let named : Server :=
              (({ server with sessions } : Server).close previous.id .replaced).tell id (.ok .name)
            have lobby : (named.tellWake id).lobby = server.lobby := by
              rw [Server.tellWake_eq_saying]
              rfl
            refine ⟨congrArg Except.ok (veil.tellWake_server named id), ?_⟩
            change veil.Covers (named.tellWake id).lobby
            rwa [lobby]
        · exact follows_ok covers

omit linked in
theorem follows_listRooms :
    veil.Follows (server.serveListRooms id) ((veil.server server).serveListRooms id) := by
  have rooms : (veil.server server).lobby.summaries = _ := veil.summaries_lobby server.lobby
  unfold Server.serveListRooms
  rw [inLobby_server, rooms]
  apply follows_checked covers
  intro identity _
  exact follows_ok covers

omit linked in
theorem follows_createRoom :
    veil.Follows (server.serveCreateRoom id) ((veil.server server).serveCreateRoom id) := by
  rw [Server.serveCreateRoom_eq, Server.serveCreateRoom_eq]
  rw [inLobby_server]
  apply follows_checked covers
  intro identity _
  have opens : (veil.server server).lobby.create = _ := veil.create_lobby server.lobby
  rw [opens]
  cases opened : server.lobby.create with
  | error error => exact follows_ok covers
  | ok both =>
    rcases both with ⟨number, created⟩
    rcases Lobby.create_eq_ok opened with ⟨missing, _, _, rooms⟩
    have covers' := covers.create opened
    have here : created.room? number = some (.vacant number server.lobby.config) :=
      (rooms number).trans (if_pos rfl)
    have filed : ∀ room, created.room? number = some room → room.id = number := by
      intro room found
      cases Option.some.inj (found.symm.trans here)
      rfl
    simp only [Except.map, Prod.map_apply, id_eq, join_lobby]
    cases taken : created.join number identity.player with
    | error error =>
      have apart := @Covers.apart _ _ number covers (by simp [missing])
      have closed := veil.remove_lobby created number
      simp only [closed]
      exact ⟨rfl, covers'.remove apart⟩
    | ok lobby =>
      have covers'' := covers'.join filed taken
      have filed' := Lobby.filed_join filed taken
      have moved := veil.move_server { server with lobby } id (.room number)
      change Server.move { veil.server server with lobby := veil.lobby lobby } id _ = _ at moved
      simp only [moved, tell_server]
      exact follows_startIfFull covers'' filed'

theorem follows_joinRoom (number : RoomId) :
    veil.Follows (server.serveJoinRoom id number) ((veil.server server).serveJoinRoom id number) := by
  rw [Server.serveJoinRoom_eq, Server.serveJoinRoom_eq]
  rw [inLobby_server]
  apply follows_checked covers
  intro identity _
  have joins : (veil.server server).lobby.join number identity.player = _ :=
    veil.join_lobby server.lobby number identity.player
  rw [joins]
  have filed : ∀ room, server.lobby.room? number = some room → room.id = number :=
    fun _ found => linked.orderly.filed found
  cases taken : server.lobby.join number identity.player with
  | error error => exact follows_ok covers
  | ok lobby =>
    have covers' := covers.join filed taken
    have filed' := Lobby.filed_join filed taken
    have moved := veil.move_server { server with lobby } id (.room number)
    change Server.move { veil.server server with lobby := veil.lobby lobby } id _ = _ at moved
    simp only [Except.map, moved, tell_server, tellRoom_server]
    rw [Server.tellRoom_eq_saying]
    exact follows_startIfFull covers' filed'

omit linked in
theorem follows_roomInfo :
    veil.Follows (server.serveRoomInfo id) ((veil.server server).serveRoomInfo id) := by
  unfold Server.serveRoomInfo
  rw [inRoom_server]
  apply follows_checked covers
  rintro ⟨identity, number⟩ _
  simp only [roomView?_server]
  split
  · exact follows_ok covers
  · exact follows_fail covers _

/-! ## Requests in which the sender's own hand counts -/

variable (blind : ∀ player ∈ server.player? id, veil.Blind player)

include blind

theorem follows_leaveRoom :
    veil.Follows (server.serveLeaveRoom id) ((veil.server server).serveLeaveRoom id) := by
  rw [Server.serveLeaveRoom_eq, Server.serveLeaveRoom_eq]
  rw [inRoom_server]
  apply follows_checked covers
  rintro ⟨identity, number⟩ allowed
  have unseen := blind _ (Server.inRoom_eq_ok allowed)
  rcases @depart_server _ _ number linked.orderly covers _ unseen with ⟨departs, covers'⟩
  simp only [departs]
  cases left : server.depart identity number with
  | error error => exact follows_fail covers _
  | ok next =>
    simp only [Except.map, move_server, tell_server]
    exact follows_ok (covers' next left)

omit linked in
theorem follows_state :
    veil.Follows (server.serveState id) ((veil.server server).serveState id) := by
  have looked : (veil.server server).sessions.get? id = _ := veil.get?_sessions server.sessions id
  unfold Server.serveState
  rw [looked]
  cases found : server.sessions.get? id with
  | none => exact follows_fail covers _
  | some session =>
    have owner : server.player? id = session.player? := by simp [Server.player?, found]
    simp only [Option.map_some, snapshot_server (owner ▸ blind)]
    apply follows_checked covers
    intro view _
    exact follows_ok covers

/-! ## Moves -/

/-- A sender who is in a game does not hold the hidden hand. -/
theorem follows_inGame (verb : Verb) {serve serve' : Server.Playing → Outcome}
    (follows : ∀ playing, server.lobby.room? playing.room.id = some playing.room →
      playing.room.stage = .playing playing.game → veil.Suits playing.room →
      veil.Blind playing.identity.player →
      veil.Follows (serve playing) (serve' (veil.playing playing))) :
    veil.Follows (server.checked (server.inGame id verb) serve)
      ((veil.server server).checked ((veil.server server).inGame id verb) serve') := by
  rw [inGame_server]
  cases allowed : server.inGame id verb with
  | error cause => exact follows_fail covers cause
  | ok playing =>
    rcases Server.inGame_eq_ok allowed with ⟨owner, stage, number, found⟩
    have filed := linked.orderly.filed found
    have suits := covers.suits found filed
    exact follows playing (filed ▸ found) stage suits (blind _ owner)

theorem follows_play (card : Card) :
    veil.Follows (server.servePlay id card) ((veil.server server).servePlay id card) := by
  apply follows_inGame linked covers blind
  intro playing found stage suits unseen
  have holds := suits.holds (game?_of_playing stage)
  simp only [identity_playing, room_playing, game_playing, id_room, play_game holds unseen]
  cases attempted : playing.game.play playing.identity.player card with
  | error error => exact follows_fail covers _
  | ok both =>
    rcases both with ⟨played, game⟩
    have accepted : playing.game.attempt (.play playing.identity.player card) = .ok game := by
      simp [Game.attempt, attempted, Except.map]
    let laid : Room := { playing.room with stage := .playing game }
    have suits' : veil.Suits laid := suits.act stage accepted unseen
    have told : ∃ told : Server, told.lobby = server.lobby.put laid ∧
        (if played.emptiedHand then
          (((server.putGame playing.room game).tell id (.ok .play)).tellRoom playing.room.id
            (.played playing.identity.nickname card) (some playing.identity.player)).tell id .win
        else ((server.putGame playing.room game).tell id (.ok .play)).tellRoom playing.room.id
            (.played playing.identity.nickname card) (some playing.identity.player)) = told := by
      refine ⟨_, ?_, rfl⟩
      rw [Server.tellRoom_eq_saying]
      split <;> rfl
    rcases told with ⟨told, lobby, same⟩
    have here : told.lobby.room? playing.room.id = some laid := by
      rw [lobby]
      exact (@Lobby.room?_put_of_room? _ _ _ laid found rfl _).trans (if_pos rfl)
    have kept : veil.Covers told.lobby := lobby ▸ covers.put suits'
    simp only [Except.map, Prod.map_apply, id_eq, putGame_server, tell_server, tellRoom_server,
      ← apply_ite veil.server, same, finishGame_server here suits', tellTurn_server]
    apply follows_ok
    split
    · exact covers_finishGame kept here suits' .played
    · rw [Server.tellTurn_eq_saying]
      exact kept

theorem follows_draw :
    veil.Follows (server.serveDraw id) ((veil.server server).serveDraw id) := by
  apply follows_inGame linked covers blind
  intro playing found stage suits unseen
  have holds := suits.holds (game?_of_playing stage)
  simp only [game_playing, identity_playing, drawCard_game holds unseen]
  cases attempted : playing.game.drawCard playing.identity.player with
  | error error => exact follows_fail covers _
  | ok both =>
    rcases both with ⟨cards, game⟩
    have accepted : playing.game.attempt (.draw playing.identity.player) = .ok game := by
      simp [Game.attempt, attempted, Except.map]
    simp only [Except.map, Prod.map_apply, id_eq, room_playing, putGame_server, Server.tellDraw,
      identity_playing, id_room, tell_server, tellRoom_server, tellTurn_server]
    apply follows_ok
    simp only [Server.tellRoom_eq_saying, Server.tellTurn_eq_saying]
    exact covers.put (suits.act stage accepted unseen)

theorem follows_pass :
    veil.Follows (server.servePass id) ((veil.server server).servePass id) := by
  apply follows_inGame linked covers blind
  intro playing found stage suits unseen
  have holds := suits.holds (game?_of_playing stage)
  simp only [game_playing, identity_playing, pass_game holds unseen]
  cases attempted : playing.game.pass playing.identity.player with
  | error error => exact follows_fail covers _
  | ok both =>
    rcases both with ⟨passed, game⟩
    have accepted : playing.game.attempt (.pass playing.identity.player) = .ok game := by
      simp [Game.attempt, attempted, Except.map]
    have kept := covers.put (suits.act stage accepted unseen)
    simp only [Except.map, Prod.map_apply, id_eq, room_playing, putGame_server, id_room]
    cases passed with
    | skipped =>
      simp only [tellRoom_server, tellTurn_server]
      apply follows_ok
      simp only [Server.tellRoom_eq_saying, Server.tellTurn_eq_saying]
      exact kept
    | drew cards =>
      simp only [Server.tellDraw, identity_playing, room_playing, id_room, tell_server,
        tellRoom_server, tellTurn_server]
      apply follows_ok
      simp only [Server.tellRoom_eq_saying, Server.tellTurn_eq_saying]
      exact kept

/-! ## Frames -/

theorem follows_dispatch (frame : Wire.Frame) :
    veil.Follows (server.dispatch id frame) ((veil.server server).dispatch id frame) := by
  have live : ((veil.server server).sessions.get? id).isNone = (server.sessions.get? id).isNone := by
    change ((veil.sessions server.sessions).get? id).isNone = _
    rw [get?_sessions, Option.isNone_map]
  unfold Server.dispatch
  rw [live]
  split
  · exact follows_fail covers _
  · split
    · next request _ =>
      cases request with
      | ok | pong => exact follows_ok covers
      | name nickname => exact follows_name linked covers nickname
      | listRooms => exact follows_listRooms covers
      | joinRoom number => exact follows_joinRoom linked covers number
      | createRoom => exact follows_createRoom covers
      | leaveRoom => exact follows_leaveRoom linked covers blind
      | roomInfo => exact follows_roomInfo covers
      | state => exact follows_state covers blind
      | play card => exact follows_play linked covers blind card
      | draw => exact follows_draw linked covers blind
      | pass => exact follows_pass linked covers blind
    · exact follows_fail covers _

/-! ## Ended sessions -/

theorem unseat_server :
    (veil.server server).unseat id = veil.server (server.unseat id) ∧
      veil.Covers (server.unseat id).lobby := by
  simp only [Server.unseat, seated?_server]
  cases seat : server.seated? id with
  | none => exact ⟨rfl, covers⟩
  | some seated =>
    rcases seated with ⟨identity, number⟩
    have unseen := blind identity.player (Server.player?_of_seated? seat)
    simp only [tellRoom_server]
    simp only [Server.tellRoom_eq_saying]
    generalize server.roomMail _ _ _ = mail
    have orderly : (server.saying mail).lobby.Orderly := linked.orderly
    rcases @depart_server _ _ number orderly covers _ unseen with ⟨departs, covers'⟩
    simp only [departs]
    cases left : (server.saying mail).depart identity number with
    | error error => exact ⟨rfl, covers⟩
    | ok rest => exact ⟨rfl, covers' rest left⟩

omit linked covers blind in
theorem shut_server (reason : EndReason) :
    (veil.server server).shut id reason = veil.server (server.shut id reason) := by
  have closed : (veil.server server).sessions.close id = _ := veil.close_sessions server.sessions id
  unfold Server.shut
  rw [closed]
  rcases server.sessions.close id with ⟨_ | session, sessions⟩ <;> rfl

theorem terminate_server (reason : EndReason) :
    (veil.server server).terminate id reason = veil.server (server.terminate id reason) ∧
      veil.Covers (server.terminate id reason).lobby := by
  rcases unseat_server linked covers blind with ⟨unseated, covers'⟩
  rw [Server.terminate_eq, Server.terminate_eq, unseated, shut_server, Server.lobby_shut]
  exact ⟨rfl, covers'⟩

/-! ## Frames in a row -/

omit blind in
theorem serveFrames_server {frames : List Wire.Frame}
    (quiet : ∀ hidden ∈ veil.hidden, server.Quiet hidden.player id frames) :
    (veil.server server).serveFrames id frames = veil.server (server.serveFrames id frames) ∧
      veil.Covers (server.serveFrames id frames).lobby := by
  induction frames generalizing server with
  | nil => exact ⟨rfl, covers⟩
  | cons frame later ih =>
    have blind : ∀ player ∈ server.player? id, veil.Blind player := by
      rintro player carries hidden hides rfl
      exact (quiet hidden hides).1 carries
    have follows := follows_dispatch linked covers blind frame
    rw [Server.serveFrames, Server.serveFrames, follows.same]
    cases served : server.dispatch id frame with
    | ok next =>
      refine ih ((Server.Step.serve served).linked linked) ?_ ?_
      · have kept := follows.covers
        rwa [served] at kept
      · intro hidden hides
        exact (quiet hidden hides).2 next (by rw [served]; rfl)
    | error failure =>
      have same := linked.server_of_failure served
      dsimp only [outcome]
      rw [same]
      exact terminate_server linked covers blind _

end Requests

end Veil

end CardTable
