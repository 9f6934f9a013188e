import CardTable.Proofs.Server.Arrivals
import CardTable.Proofs.Server.Departures
import CardTable.Proofs.Server.Turns

/-!
# Answers

Every request that is served keeps the clients informed. A request is made by a session that is
awake, at a time when everybody has been told who is awake and who sleeps.
-/

namespace CardTable

/-- The card that a request asks to lay. -/
def Request.card? : Request → Option Card
  | play card => some card
  | _ => none

namespace Server

variable {server next : Server} {told : ConnectionId → Bool} {id : ConnectionId}
  {session : Session} {identity : Identity} {number : RoomId} {room : Room}

/-! ## Who asks -/

section Senders

variable (found : server.sessions.get? id = some session)

include found

theorem exists_of_inLobby {verb : Verb} {serve : Identity → Outcome}
    (served : server.checked (server.inLobby id verb) serve = .ok next) :
    ∃ identity, session.identity = some identity ∧ session.location = .lobby ∧
      serve identity = .ok next := by
  cases carries : session.identity with
  | none =>
    simp only [inLobby, sender_of_unnamed found carries, bind, Except.bind] at served
    cases served
  | some identity =>
    have sender := sender_of_identity found carries verb
    cases location : session.location with
    | lobby =>
      simp only [inLobby, sender, location, bind, Except.bind] at served
      exact ⟨identity, rfl, rfl, served⟩
    | unnamed | room number | game number =>
      simp only [inLobby, sender, location, bind, Except.bind] at served
      cases served

theorem exists_of_inRoom {verb : Verb} {serve : Identity × RoomId → Outcome}
    (served : server.checked (server.inRoom id verb) serve = .ok next) :
    ∃ identity number, session.identity = some identity ∧ session.location.room? = some number ∧
      serve (identity, number) = .ok next := by
  cases carries : session.identity with
  | none =>
    simp only [inRoom, sender_of_unnamed found carries, bind, Except.bind] at served
    cases served
  | some identity =>
    have sender := sender_of_identity found carries verb
    cases inside : session.location.room? with
    | none =>
      simp only [inRoom, sender, inside, bind, Except.bind] at served
      cases served
    | some number =>
      simp only [inRoom, sender, inside, bind, Except.bind] at served
      exact ⟨identity, number, rfl, rfl, served⟩

theorem exists_of_inGame {verb : Verb} {serve : Playing → Outcome}
    (served : server.checked (server.inGame id verb) serve = .ok next) :
    ∃ identity number room game, session.identity = some identity ∧
      session.location = .game number ∧ server.lobby.room? number = some room ∧
      room.stage = .playing game ∧ serve { identity, room, game } = .ok next := by
  cases carries : session.identity with
  | none =>
    simp only [inGame_eq, sender_of_unnamed found carries, bind, Except.bind] at served
    cases served
  | some identity =>
    have sender := sender_of_identity found carries verb
    cases location : session.location with
    | unnamed | lobby | room number =>
      simp only [inGame_eq, sender, location, bind, Except.bind] at served
      cases served
    | game number =>
      cases here : server.lobby.room? number with
      | none =>
        simp only [inGame_eq, sender, location, here, bind, Except.bind] at served
        cases served
      | some room =>
        cases stage : room.stage with
        | waiting | finished game =>
          simp only [inGame_eq, sender, location, here, stage, bind, Except.bind] at served
          cases served
        | playing game =>
          simp only [inGame_eq, sender, location, here, stage, bind, Except.bind] at served
          exact ⟨identity, number, room, game, rfl, rfl, here, stage, served⟩

theorem quietly_listRooms (served : server.serveListRooms id = .ok next) :
    server.Quietly told next := by
  rcases exists_of_inLobby found served with ⟨_, _, _, answered⟩
  cases answered
  exact quietly_tell server told id trivial

end Senders

/-! ## Names and rooms -/

/-- Nobody else hears what is said in a room to the others. -/
theorem roomMail_of_alone {player : PlayerId}
    (found : server.lobby.room? number = some room) (alone : room.players = [player])
    (notice : Notice) : server.roomMail number notice (some player) = [] := by
  simp [roomMail, audience, found, alone, mailTo]

/-- The server once a connection stands in a room of a changed lobby. -/
abbrev entered (server : Server) (lobby : Lobby) (id : ConnectionId) (number : RoomId) : Server :=
  ({ server with lobby } : Server).move id (.room number)

/-- Somebody who comes from the lobby takes a seat in a room, which may just have been opened, and
the game starts if it is the last one. -/
inductive Seating (server : Server) (id : ConnectionId) (next : Server) : Prop
  | intro {identity : Identity} {number : RoomId} {lobby : Lobby} {room : Room}
      {mail : List Delivery} (command : Command)
      (leads : server.sessions.findPlayer? identity.player = some id)
      (named : server.nicknameOf? identity.player = some identity.nickname)
      (elsewhere : ∀ asked, asked ≠ number → lobby.room? asked = server.lobby.room? asked)
      (here : lobby.room? number = some { room with players := room.players ++ [identity.player] })
      (filed : room.id = number) (alike : room.config = server.lobby.config)
      (waiting : room.stage = .waiting) (free : ¬room.IsFull)
      (same : ∀ before, server.lobby.room? number = some before → before = room)
      (before : ∀ other ∈ room.players, server.lobby.room? number = some room)
      (entered : (server.entered lobby id number).Linked) (enters : (Notice.ok command).Enters)
      (mail_eq : mail = { connection := id, notice := .ok command } ::
        (server.entered lobby id number).roomMail number (.join identity.nickname)
          (some identity.player))
      (started : ((server.entered lobby id number).saying mail).startIfFull number = .ok next)

/-- Somebody has drawn or given in, and the game goes on. -/
inductive Draws (server : Server) (id : ConnectionId) : Server → Prop
  | intro {identity : Identity} {number : RoomId} {room : Room} {game after : Game} {move : Move}
      {deed : Deed} (sits : server.Sits id identity.player number)
      (named : server.nicknameOf? identity.player = some identity.nickname)
      (found : server.lobby.room? number = some room) (playing : room.stage = .playing game)
      (draws : move = .draw identity.player ∨ move = .pass identity.player)
      (accepted : game.attempt move = .ok after) (on : after.phase ≠ .finished)
      (done : deed.Done game identity.player after) (lays_none : deed.card? = none) :
      Draws server id (((server.putGame room after).saying
        ((server.putGame room after).deedMail id identity number deed)).tellTurn number)

section Requests

variable (linked : server.Linked) (found : server.sessions.get? id = some session)

include linked found

theorem quietly_name (awake : told id = true) {nickname : String}
    (served : server.serveName id nickname = .ok next) : server.Quietly told next := by
  have filed := linked.indexed.filed found
  subst filed
  simp only [serveName, found] at served
  split at served
  · cases served
  · next nowhere =>
    have unnamed := (linked.location_eq_unnamed_iff found).1 (not_not.1 nowhere)
    cases taken : server.sessions.findName? nickname with
    | none =>
      let identity : Identity := { nickname, player := server.nextPlayer }
      have given := @Sessions.name_eq_ok _ _ identity taken found unnamed
      simp only [identity] at given
      simp only [taken, given] at served
      cases served
      exact @quietly_named _ told linked _ identity found unnamed taken rfl
    | some owner =>
      rcases (linked.indexed.byName _ _).1 taken with ⟨holder, found', nick⟩
      rcases Option.map_eq_some_iff.1 nick with ⟨identity, carries, _⟩
      have filed := linked.indexed.filed found'
      subst filed
      simp only [taken, found', Option.any_some] at served
      split at served
      · have different : holder.id ≠ session.id := by
          intro same
          rw [same, found] at found'
          cases found'
          rw [unnamed] at carries
          cases carries
        rw [Sessions.reclaim_eq_ok found' found carries unnamed] at served
        cases served
        exact quietly_inherited linked found' found carries unnamed different awake
      · cases served
        exact quietly_tell server told session.id trivial

theorem seating_of_join {lobby : Lobby} {joined : Room} {mail : List Delivery} (command : Command)
    (carries : session.identity = some identity) (location : session.location = .lobby)
    (config : lobby.config = server.lobby.config)
    (elsewhere : ∀ asked, asked ≠ number → lobby.room? asked = server.lobby.room? asked)
    (here : lobby.room? number = some room) (filed : room.id = number)
    (alike : room.config = server.lobby.config) (sound : room.Sound)
    (same : ∀ before, server.lobby.room? number = some before → before = room)
    (seats : ∀ other, other ∈ room.players ↔ server.lobby.Seats number other)
    (seat : room.join identity.player = .ok joined) (enters : (Notice.ok command).Enters)
    (mail_eq : mail = { connection := id, notice := .ok command } ::
      (server.entered (lobby.put joined) id number).roomMail number (.join identity.nickname)
        (some identity.player))
    (started : ((server.entered (lobby.put joined) id number).saying mail).startIfFull number =
      .ok next) : server.Seating id next := by
  have entered := linked.seated found carries location config elsewhere here filed alike sound same
    seats seat
  rcases linked.known found carries with ⟨leads, named⟩
  rcases Room.join_eq_ok seat with ⟨waiting, _, free, rfl⟩
  have put := @Lobby.room?_put_of_room? _ _ _
    { room with players := room.players ++ [identity.player] } here filed
  refine .intro command leads named ?_ ((put number).trans (if_pos rfl)) filed alike waiting free
    same ?_ entered enters mail_eq started
  · intro asked other
    rw [put, if_neg other, elsewhere asked other]
  · intro other member
    rcases (seats other).1 member with ⟨before, there, _⟩
    rw [there, same before there]

/-- A new room is opened, unless there are too many. -/
theorem seating_of_createRoom (served : server.serveCreateRoom id = .ok next) :
    next = server.tell id (.fail .createRoom) ∨ server.Seating id next := by
  rw [serveCreateRoom_eq] at served
  rcases exists_of_inLobby found served with ⟨identity, carries, location, answered⟩
  cases opened : server.lobby.create with
  | error error =>
    simp only [opened] at answered
    cases answered
    exact .inl rfl
  | ok result =>
    rcases result with ⟨number, created⟩
    rcases Lobby.create_eq_ok opened with ⟨missing, config, _, rooms⟩
    let room := Room.vacant number server.lobby.config
    have here : created.room? number = some room := (rooms number).trans (if_pos rfl)
    have elsewhere : ∀ asked, asked ≠ number → created.room? asked = server.lobby.room? asked := by
      intro asked other
      rw [rooms, if_neg other]
    have free : ¬room.IsFull := by
      have two := linked.orderly.two_le_capacity
      simp only [room, Room.IsFull, Room.vacant, List.length_nil]
      omega
    have seat := @Room.join_of_waiting room identity.player rfl List.not_mem_nil free
    simp only [opened, Lobby.join_of_room? here seat, tell_eq_saying] at answered
    refine .inr (seating_of_join linked found .createRoom carries location config elsewhere here rfl
      rfl (Room.sound_vacant _ _) ?_ ?_ seat trivial ?_ answered)
    · intro before there
      rw [missing] at there
      cases there
    · intro other
      simp [room, Room.vacant, Lobby.Seats, missing]
    · let joined : Room := { room with players := [identity.player] }
      have here' : (server.entered (created.put joined) id number).lobby.room? number =
          some joined := (Lobby.room?_put_of_room? here rfl number).trans (if_pos rfl)
      have nobody := roomMail_of_alone here' rfl (.join identity.nickname)
      exact congrArg _ nobody.symm

/-- A seat is taken, unless there is none. -/
theorem seating_of_joinRoom (served : server.serveJoinRoom id number = .ok next) :
    next = server.tell id (.fail .joinRoom) ∨ server.Seating id next := by
  rw [serveJoinRoom_eq] at served
  rcases exists_of_inLobby found served with ⟨identity, carries, location, answered⟩
  cases taken : server.lobby.join number identity.player with
  | error error =>
    simp only [taken] at answered
    cases answered
    exact .inl rfl
  | ok lobby =>
    rcases Lobby.join_eq_ok taken with ⟨room, joined, here, seat, rfl⟩
    simp only [taken, tellRoom_eq_saying, tell_eq_saying, saying_saying] at answered
    refine .inr (seating_of_join linked found .joinRoom carries location rfl (fun _ _ => rfl) here
      (linked.orderly.filed here) (linked.orderly.alike here) (linked.orderly.sound here) ?_ ?_ seat
      trivial rfl answered)
    · intro before there
      exact Option.some.inj (there.symm.trans here)
    · intro other
      rw [Lobby.seats_iff here]

omit found in
theorem quietly_seating (awake : told id = true) (seating : server.Seating id next) :
    server.Quietly told next := by
  cases seating with
  | intro command leads named elsewhere here filed alike waiting free same before entered enters
      mail_eq started =>
    have enter := quietly_enter linked.indexed leads named awake elsewhere here waiting before
      entered enters mail_eq
    exact enter.trans (quietly_startIfFull (entered.saying _) here started)

theorem quietly_leaveRoom (served : server.serveLeaveRoom id = .ok next) :
    server.Quietly told next := by
  rw [serveLeaveRoom_eq] at served
  rcases exists_of_inRoom found served with ⟨identity, number, carries, inside, answered⟩
  have sits := linked.sits found carries inside
  have named := (linked.known found carries).2
  cases left : server.depart identity number with
  | error error =>
    simp only [left] at answered
    cases answered
  | ok rest =>
    simp only [left] at answered
    cases answered
    have move := moved_moveAll rest [id] .lobby
    have departed := @quietly_depart _ _ told _ _ _ linked sits named left
    refine departed.trans (quietly_of_people [{ connection := id, notice := .ok .leaveRoom }]
      ⟨move.byPlayer, move.identity⟩ move.lobby rfl ?_ move.keeps)
    simp [Notice.IsTalk]

/-! ## Turns -/

/-- Whoever asks for something in a game that is on sits there. -/
theorem sits_of_inGame {verb : Verb} {serve : Playing → Outcome}
    (served : server.checked (server.inGame id verb) serve = .ok next) :
    ∃ identity number room game, server.Sits id identity.player number ∧
      server.nicknameOf? identity.player = some identity.nickname ∧ room.id = number ∧
      server.lobby.room? number = some room ∧ room.stage = .playing game ∧
      serve { identity, room, game } = .ok next := by
  rcases exists_of_inGame found served with
    ⟨identity, number, room, game, carries, location, here, stage, answered⟩
  exact ⟨identity, number, room, game,
    linked.sits found carries (congrArg Location.room? location), (linked.known found carries).2,
    linked.orderly.filed here, here, stage, answered⟩

/-- What is said to somebody who has emptied a hand. -/
def winMail (id : ConnectionId) (emptied : Bool) : List Delivery :=
  if emptied then [{ connection := id, notice := .win }] else []

/-- A card that is laid is said to be, a hand that is emptied has won, and then it is somebody's turn
or the game is over. -/
theorem exists_of_servePlay {card : Card} (served : server.servePlay id card = .ok next) :
    ∃ identity number room game played after, server.Sits id identity.player number ∧
      server.nicknameOf? identity.player = some identity.nickname ∧
      server.lobby.room? number = some room ∧ room.stage = .playing game ∧
      game.play identity.player card = .ok (played, after) ∧
      let acted := (server.putGame room after).saying
        ((server.putGame room after).deedMail id identity number (.lay card) ++
          winMail id played.emptiedHand)
      next =
        if after.isFinished then acted.finishGame number .played else acted.tellTurn number := by
  rcases sits_of_inGame linked found served with
    ⟨identity, number, room, game, sits, named, filed, here, stage, answered⟩
  cases played : game.play identity.player card with
  | error error =>
    simp only [played] at answered
    cases answered
  | ok result =>
    rcases result with ⟨outcome, after⟩
    rcases Game.play_eq_ok played with ⟨_, _, _, _, _, ends⟩
    refine ⟨identity, number, room, game, outcome, after, sits, named, here, stage, played, ?_⟩
    simp only [played, filed, tellRoom_played, ends, Except.ok.injEq] at answered
    rw [← answered, winMail]
    split
    · rw [tell_eq_saying, saying_saying]
    · rw [List.append_nil]

theorem answered_play {card : Card} (served : server.servePlay id card = .ok next) :
    server.Answered told next fun asked => if asked = id then [card] else [] := by
  rcases exists_of_servePlay linked found served with
    ⟨identity, number, room, game, played, after, sits, named, here, stage, laid, answered⟩
  have accepted : game.attempt (.play identity.player card) = .ok after :=
    congrArg (Except.map Prod.snd) laid
  have idle : ∀ delivery ∈ winMail id played.emptiedHand,
      delivery.connection = id ∧ delivery.notice.IsTalk := by
    unfold winMail
    split <;> simp [Notice.IsTalk]
  dsimp only at answered
  rw [answered]
  split
  · next ended => exact answered_finishGame linked sits here ended idle .played
  · next goes_on =>
    have on : after.phase ≠ .finished := by simpa [Game.isFinished] using goes_on
    have linked' := @Linked.putGame _ _ _ linked _ _ (.play identity.player card) here stage trivial
      accepted on
    exact answered_tellTurn linked sits named here stage (Deed.done_of_play laid) linked' idle

theorem draws_of_serveDraw (served : server.serveDraw id = .ok next) : server.Draws id next := by
  rcases sits_of_inGame linked found served with
    ⟨identity, number, room, game, sits, named, filed, here, stage, answered⟩
  have ready := ((linked.orderly.sound here).of_playing stage).2.2
  cases drawn : game.drawCard identity.player with
  | error error =>
    simp only [drawn] at answered
    cases answered
  | ok result =>
    rcases result with ⟨cards, after⟩
    have accepted : game.attempt (.draw identity.player) = .ok after :=
      congrArg (Except.map Prod.snd) drawn
    simp only [drawn, filed, tellDraw_eq_saying] at answered
    cases answered
    exact .intro sits named here stage (.inl rfl) accepted
      (Game.phase_drawCard_ne_finished ready drawn) (Deed.done_of_drawCard drawn) rfl

theorem draws_of_servePass (served : server.servePass id = .ok next) : server.Draws id next := by
  rcases sits_of_inGame linked found served with
    ⟨identity, number, room, game, sits, named, filed, here, stage, answered⟩
  have ready := ((linked.orderly.sound here).of_playing stage).2.2
  cases gave_in : game.pass identity.player with
  | error error =>
    simp only [gave_in] at answered
    cases answered
  | ok result =>
    rcases result with ⟨passed, after⟩
    have accepted : game.attempt (.pass identity.player) = .ok after :=
      congrArg (Except.map Prod.snd) gave_in
    have on := Game.phase_pass_ne_finished ready gave_in
    have done := Deed.done_of_pass gave_in
    simp only [gave_in, filed, tellDraw_eq_saying, tellRoom_eq_saying] at answered
    cases passed with
    | skipped | drew cards =>
      cases answered
      exact .intro sits named here stage (.inr rfl) accepted on done rfl

omit found in
theorem quietly_draws (draws : server.Draws id next) : server.Quietly told next := by
  cases draws with
  | @intro identity number room game after move deed sits named here stage draws accepted on done
      none =>
    have action : move.IsAction := by
      rcases draws with rfl | rfl <;> trivial
    have linked' := linked.putGame here stage action accepted on
    have told_deed := @answered_tellTurn _ told id identity number room _ game after [] linked sits
      named here stage done linked' (by simp)
    simpa [none] using told_deed

end Requests

/-! ## Pictures -/

section Pictures

variable (linked : server.Linked) (found : server.sessions.get? id = some session)
  (matched : ∀ {asked session}, server.sessions.get? asked = some session →
    told asked = session.isAwake)

include linked found matched

theorem quietly_roomInfo (served : server.serveRoomInfo id = .ok next) :
    server.Quietly told next := by
  rcases exists_of_inRoom found served with ⟨identity, number, carries, inside, answered⟩
  have sits := linked.sits found carries inside
  rcases sits.seats with ⟨room, here, _⟩
  cases seen : server.roomView? number with
  | none =>
    simp only [seen] at answered
    cases answered
  | some view =>
    simp only [seen] at answered
    cases answered
    exact quietly_picture linked sits
      (.room (occupants_of_roomView? linked.indexed (linked.hosts here) matched seen))

theorem quietly_state (served : server.serveState id = .ok next) : server.Quietly told next := by
  simp only [serveState, found] at served
  cases location : session.location with
  | unnamed | lobby =>
    simp only [snapshot, location, checked] at served
    cases served
    exact quietly_tell server told id trivial
  | room number =>
    have inside : session.location.room? = some number := congrArg Location.room? location
    rcases linked.exists_seat found inside with ⟨identity, room, carries, here, _⟩
    cases seen : server.roomView? number with
    | none =>
      simp only [snapshot, location, seen, checked] at served
      cases served
    | some view =>
      simp only [snapshot, location, seen, checked] at served
      cases served
      exact quietly_picture linked (linked.sits found carries inside)
        (.state (occupants_of_roomView? linked.indexed (linked.hosts here) matched seen))
  | game number =>
    have inside : session.location.room? = some number := congrArg Location.room? location
    rcases linked.exists_seat found inside with ⟨identity, room, carries, here, member, _⟩
    have hosts := linked.hosts here
    cases seen : server.roomView? number with
    | none =>
      simp only [snapshot, location, seen, checked] at served
      cases served
    | some view =>
      simp only [snapshot, location, seen, checked] at served
      cases served
      rw [turnView?_eq linked.indexed hosts told]
      refine quietly_picture linked (linked.sits found carries inside)
        (.game (occupants_of_roomView? linked.indexed hosts matched seen) ?_)
      intro game on
      rw [game_scene here] at on
      cases stage : room.stage with
      | waiting | finished other =>
        rw [stage] at on
        cases on
      | playing other =>
        rw [stage] at on
        cases on
        have seated := ((linked.orderly.sound here).of_playing stage).1
        rcases Game.exists_hand (seated ▸ member) with ⟨seat, _, held⟩
        simp [game?, here, Room.game?, stage, Stage.game?, Session.player?, carries, held]

/-! ## All requests -/

/-- Whatever is asked for, a request that is served keeps the clients informed. -/
theorem answered_request (awake : told id = true) {request : Request}
    (served : server.serve id request = .ok next) :
    server.Answered told next fun asked => if asked = id then request.card?.toList else [] := by
  have quiet (nothing : request.card? = none) (quietly : server.Quietly told next) :
      server.Answered told next fun asked => if asked = id then request.card?.toList else [] := by
    simpa [nothing] using quietly
  cases request with
  | ok | pong =>
    cases served
    exact quiet rfl (.refl _ _)
  | name nickname => exact quiet rfl (quietly_name linked found awake served)
  | listRooms => exact quiet rfl (quietly_listRooms found served)
  | joinRoom number =>
    rcases seating_of_joinRoom linked found served with rfl | seating
    · exact quiet rfl (quietly_tell server told id trivial)
    · exact quiet rfl (quietly_seating linked awake seating)
  | createRoom =>
    rcases seating_of_createRoom linked found served with rfl | seating
    · exact quiet rfl (quietly_tell server told id trivial)
    · exact quiet rfl (quietly_seating linked awake seating)
  | leaveRoom => exact quiet rfl (quietly_leaveRoom linked found served)
  | roomInfo => exact quiet rfl (quietly_roomInfo linked found matched served)
  | state => exact quiet rfl (quietly_state linked found matched served)
  | play card => exact answered_play linked found served
  | draw => exact quiet rfl (quietly_draws linked (draws_of_serveDraw linked found served))
  | pass => exact quiet rfl (quietly_draws linked (draws_of_servePass linked found served))

end Pictures

end Server

end CardTable
