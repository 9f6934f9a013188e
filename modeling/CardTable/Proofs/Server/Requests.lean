import CardTable.Proofs.Server.Service

/-!
# Every request in turn

For each kind of request: where it is served, that it leaves a linked server, and that otherwise it
is refused.
-/

namespace CardTable.Server.Linked

variable {server : Server} {id : ConnectionId} {session : Session}

theorem tell (linked : server.Linked) (connection : ConnectionId) (notice : Notice) :
    (server.tell connection notice).Linked :=
  linked.saying [{ connection, notice }]

theorem closing (linked : server.Linked) (connection : ConnectionId) (cause : ClosingCause) :
    (server.close connection cause).Linked :=
  linked.of_alike (.refl _) rfl rfl

variable (linked : server.Linked) (found : server.sessions.get? id = some session)

include linked found

/-! ## Names -/

theorem served_name (nickname : String) :
    Served server (session.location = .unnamed) (server.serveName id nickname) := by
  have filed := linked.indexed.filed found
  subst filed
  simp only [serveName, found]
  by_cases nowhere : session.location = .unnamed
  · rw [if_neg (not_not.2 nowhere)]
    have unnamed := (linked.location_eq_unnamed_iff found).1 nowhere
    cases taken : server.sessions.findName? nickname with
    | none =>
      let identity : Identity := { nickname, player := server.nextPlayer }
      have named := @named _ _ linked identity found unnamed taken rfl
      have given := @Sessions.name_eq_ok _ _ identity taken found unnamed
      simp only [identity] at given
      simp only [given]
      exact .done nowhere (named.tell _ _)
    | some owner =>
      rcases (linked.indexed.byName _ _).1 taken with ⟨holder, found', nick⟩
      rcases Option.map_eq_some_iff.1 nick with ⟨identity, carries, _⟩
      have filed := linked.indexed.filed found'
      subst filed
      simp only [found', Option.any_some]
      split
      · have different : holder.id ≠ session.id := by
          intro same
          rw [same, found] at found'
          cases found'
          rw [unnamed] at carries
          cases carries
        have inherited := linked.inherited found' found carries unnamed different
        rw [Sessions.reclaim_eq_ok found' found carries unnamed]
        simp only [tellWake_eq_saying]
        exact .done nowhere (((inherited.closing _ _).tell _ _).saying _)
      · exact .done nowhere (linked.tell _ _)
  · rw [if_pos nowhere]
    exact .refused nowhere (.violation _)

/-! ## The lobby -/

theorem served_listRooms :
    Served server (session.location = .lobby) (server.serveListRooms id) := by
  apply linked.served_of_inLobby found
  intro identity carries location
  exact ⟨_, rfl, linked.tell _ _⟩

section Seated

variable {identity : Identity} {lobby : Lobby} {number : RoomId} {room joined : Room}
  (carries : session.identity = some identity) (location : session.location = .lobby)
  (config : lobby.config = server.lobby.config)
  (elsewhere : ∀ asked, asked ≠ number → lobby.room? asked = server.lobby.room? asked)
  (here : lobby.room? number = some room) (filed : room.id = number)
  (alike : room.config = server.lobby.config) (sound : room.Sound)
  (same : ∀ before, server.lobby.room? number = some before → before = room)
  (seats : ∀ other, other ∈ room.players ↔ server.lobby.Seats number other)
  (seat : room.join identity.player = .ok joined)

include carries location config elsewhere here filed alike sound same seats seat

/-- Somebody from the lobby takes a seat in a room, which may just have been opened. -/
theorem seated : (({ server with lobby := lobby.put joined } : Server).move id
    (.room number)).Linked := by
  have sound' := sound.join seat
  rcases Room.join_eq_ok seat with ⟨waiting, _, _, rfl⟩
  have put := @Lobby.room?_put_of_room? _ _ _
    { room with players := room.players ++ [identity.player] } here filed
  have here' := (put number).trans (if_pos rfl)
  have elsewhere' : ∀ asked, asked ≠ number → (lobby.put
      { room with players := room.players ++ [identity.player] }).room? asked =
        server.lobby.room? asked := by
    intro asked other
    rw [put, if_neg other, elsewhere asked other]
  have orderly := @Lobby.Orderly.of_room? _ (lobby.put
    { room with players := room.players ++ [identity.player] }) linked.orderly number config
      elsewhere' (by
        intro after found'
        cases Option.some.inj (here'.symm.trans found')
        exact ⟨filed, alike, by simp, sound'⟩)
  have standing : session.location.room? = none := by
    rw [location]
    rfl
  have player := Session.player?_of_identity carries
  have place : ∀ players, ({ room with players } : Room).place = .room number := by
    intro players
    simp [Room.place, waiting, filed]
  have entered := linked.enter found player standing orderly elsewhere' here'
    (by
      intro other
      rw [List.mem_append, List.mem_singleton, seats])
    (by
      intro before there
      rw [same before there]
      exact (place room.players).trans (place _).symm)
  rwa [place] at entered

/-- If it is the last seat, the game starts. -/
theorem exists_seated (mail : List Delivery) :
    ∃ later, ((({ server with lobby := lobby.put joined } : Server).move id (.room number)).saying
      mail).startIfFull number = .ok later ∧ later.Linked := by
  have entered := linked.seated found carries location config elsewhere here filed alike sound same
    seats seat
  have filed' : joined.id = number := by
    rcases Room.join_eq_ok seat with ⟨_, _, _, rfl⟩
    exact filed
  exact (entered.saying mail).startIfFull
    ((Lobby.room?_put_of_room? here filed' number).trans (if_pos rfl))

end Seated

theorem served_createRoom :
    Served server (session.location = .lobby) (server.serveCreateRoom id) := by
  rw [serveCreateRoom_eq]
  apply linked.served_of_inLobby found
  intro identity carries location
  cases opened : server.lobby.create with
  | error error => exact ⟨_, rfl, linked.tell _ _⟩
  | ok result =>
    rcases result with ⟨number, created⟩
    rcases Lobby.create_eq_ok opened with ⟨missing, config, _, rooms⟩
    let room := Room.vacant number server.lobby.config
    have here : created.room? number = some room := (rooms number).trans (if_pos rfl)
    have elsewhere : ∀ asked, asked ≠ number → created.room? asked = server.lobby.room? asked := by
      intro asked other
      rw [rooms, if_neg other]
    have free : ¬room.IsFull := by
      have two := linked.orderly.two_le_capacity
      simp only [room, Room.IsFull, Room.vacant, List.length_nil]
      omega
    have seat := @Room.join_of_waiting room identity.player rfl List.not_mem_nil free
    simp only [Lobby.join_of_room? here seat, tell_eq_saying]
    apply linked.exists_seated found carries location config elsewhere here rfl rfl
      (Room.sound_vacant _ _) _ _ seat
    · intro before there
      rw [missing] at there
      cases there
    · intro other
      simp [room, Room.vacant, Lobby.Seats, missing]

theorem served_joinRoom (number : RoomId) :
    Served server (session.location = .lobby) (server.serveJoinRoom id number) := by
  rw [serveJoinRoom_eq]
  apply linked.served_of_inLobby found
  intro identity carries location
  cases taken : server.lobby.join number identity.player with
  | error error => exact ⟨_, rfl, linked.tell _ _⟩
  | ok lobby =>
    rcases Lobby.join_eq_ok taken with ⟨room, joined, here, seat, rfl⟩
    simp only [tellRoom_eq_saying, tell_eq_saying, saying_saying]
    apply linked.exists_seated found carries location rfl (fun _ _ => rfl) here
      (linked.orderly.filed here) (linked.orderly.alike here) (linked.orderly.sound here) _ _ seat
    · intro before there
      exact Option.some.inj (there.symm.trans here)
    · intro other
      rw [Lobby.seats_iff here]

/-! ## Rooms -/

theorem served_leaveRoom :
    Served server (∃ number, session.location = .room number ∨ session.location = .game number)
      (server.serveLeaveRoom id) := by
  rw [serveLeaveRoom_eq]
  apply linked.served_of_inRoom found
  intro identity number carries inside
  rcases linked.depart found carries inside with ⟨lobby, mail, left, linked'⟩
  simp only [left]
  exact ⟨_, rfl, (linked'.saying mail).tell _ _⟩

theorem exists_roomView {number : RoomId} (inside : session.location.room? = some number) :
    ∃ view, server.roomView? number = some view := by
  rcases linked.exists_seat found inside with ⟨_, room, _, here, _⟩
  simp [roomView?, here]

theorem served_roomInfo :
    Served server (∃ number, session.location = .room number ∨ session.location = .game number)
      (server.serveRoomInfo id) := by
  apply linked.served_of_inRoom found
  intro identity number carries inside
  rcases linked.exists_roomView found inside with ⟨view, seen⟩
  simp only [seen]
  exact ⟨_, rfl, linked.tell _ _⟩

theorem served_state : Served server True (server.serveState id) := by
  have seen : ∃ view, server.snapshot session = .ok view := by
    cases location : session.location with
    | unnamed => exact ⟨.unnamed, by rw [snapshot, location]⟩
    | lobby => exact ⟨.lobby, by rw [snapshot, location]⟩
    | room number =>
      rcases linked.exists_roomView found (congrArg Location.room? location) with ⟨view, seen⟩
      simp [snapshot, location, seen]
    | game number =>
      rcases linked.exists_roomView found (congrArg Location.room? location) with ⟨view, seen⟩
      simp [snapshot, location, seen]
  rcases seen with ⟨view, seen⟩
  simp only [serveState, found, seen, checked]
  exact .done trivial (linked.tell _ _)

/-! ## Moves -/

theorem served_play (card : Card) :
    Served server (server.Accepts session fun player => .play player card)
      (server.servePlay id card) := by
  refine linked.served_of_inGame found .play (fun player => .play player card) (fun _ => trivial)
    (fun _ => rfl) ?_ ?_
  · intro playing error refused
    simp only [Game.map_snd_eq_error refused]
  · intro playing later here stage accepted
    have action : (Move.play playing.identity.player card).IsAction := trivial
    rcases Game.map_snd_eq_ok accepted with ⟨played, moved⟩
    rcases Game.play_eq_ok moved with ⟨_, _, _, _, _, ends⟩
    simp only [moved, tell_eq_saying, tellRoom_eq_saying, saying_saying]
    generalize said : (if played.emptiedHand = true then _ else _) = told
    have mail : ∃ mail, told = (server.putGame playing.room later).saying mail := by
      rw [← said]
      split <;> exact ⟨_, rfl⟩
    rcases mail with ⟨mail, rfl⟩
    refine ⟨_, rfl, ?_⟩
    split
    · exact linked.finishGame here stage action accepted mail .played
    · next goes_on =>
      have on : later.phase ≠ .finished := by
        rw [ends] at goes_on
        simpa [Game.isFinished] using goes_on
      rw [tellTurn_eq_saying]
      exact ((linked.putGame here stage action accepted on).saying mail).saying _

theorem served_draw : Served server (server.Accepts session .draw) (server.serveDraw id) := by
  refine linked.served_of_inGame found .draw .draw (fun _ => trivial) (fun _ => rfl) ?_ ?_
  · intro playing error refused
    simp only [Game.map_snd_eq_error refused]
  · intro playing later here stage accepted
    have action : (Move.draw playing.identity.player).IsAction := trivial
    rcases Game.map_snd_eq_ok accepted with ⟨cards, moved⟩
    have ready := ((linked.orderly.sound here).of_playing stage).2.2
    have on := Game.phase_drawCard_ne_finished ready moved
    have linked' := linked.putGame here stage action accepted on
    simp only [moved, tellDraw, tellTurn_eq_saying, tellRoom_eq_saying, tell_eq_saying]
    exact ⟨_, rfl, ((linked'.saying _).saying _).saying _⟩

theorem served_pass : Served server (server.Accepts session .pass) (server.servePass id) := by
  refine linked.served_of_inGame found .pass .pass (fun _ => trivial) (fun _ => rfl) ?_ ?_
  · intro playing error refused
    simp only [Game.map_snd_eq_error refused]
  · intro playing later here stage accepted
    have action : (Move.pass playing.identity.player).IsAction := trivial
    rcases Game.map_snd_eq_ok accepted with ⟨passed, moved⟩
    have ready := ((linked.orderly.sound here).of_playing stage).2.2
    have on := Game.phase_pass_ne_finished ready moved
    have linked' := linked.putGame here stage action accepted on
    simp only [moved, tellDraw, tellTurn_eq_saying, tellRoom_eq_saying, tell_eq_saying]
    refine ⟨_, rfl, ?_⟩
    cases passed with
    | skipped => exact (linked'.saying _).saying _
    | drew cards => exact ((linked'.saying _).saying _).saying _

/-! ## All requests -/

theorem served_request (request : Request) :
    Served server (server.Permits session request) (server.serve id request) := by
  cases request with
  | ok | pong => exact .done trivial linked
  | name nickname => exact linked.served_name found nickname
  | listRooms => exact linked.served_listRooms found
  | joinRoom number => exact linked.served_joinRoom found number
  | createRoom => exact linked.served_createRoom found
  | leaveRoom => exact linked.served_leaveRoom found
  | roomInfo => exact linked.served_roomInfo found
  | state => exact linked.served_state found
  | play card => exact linked.served_play found card
  | draw => exact linked.served_draw found
  | pass => exact linked.served_pass found

theorem served_frame (frame : Wire.Frame) :
    Served server (∃ request, Request.ofWords frame = .ok request ∧ server.Permits session request)
      (server.dispatch id frame) := by
  have known : ¬(server.sessions.get? id).isNone = true := by simp [found]
  rw [dispatch, if_neg known]
  cases read : Request.ofWords frame with
  | error error =>
    refine .refused ?_ (.protocol error)
    rintro ⟨request, readable, _⟩
    cases readable
  | ok request =>
    apply (linked.served_request found request).congr
    constructor
    · intro may
      exact ⟨request, rfl, may⟩
    · rintro ⟨request', readable, may⟩
      cases readable
      exact may

end CardTable.Server.Linked
