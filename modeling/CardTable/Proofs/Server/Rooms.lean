import CardTable.Proofs.Server.Seats

/-!
# Departures, starts and turns

What the requests that concern a room have in common. A departure always succeeds for a player who
has a seat, and takes the room away when nobody is left. A room that is full can be started. A game
that somebody has acted in is put back, and its room is concluded when the game is over.
-/

namespace CardTable

namespace Lobby

variable {lobby next : Lobby} {number : RoomId} {room rest : Room} {player : PlayerId}

theorem put_put {changed : Room} (same : changed.id = room.id) :
    (lobby.put room).put changed = lobby.put changed := by
  have rooms : ((lobby.put room).put changed).rooms = (lobby.put changed).rooms := by
    apply Directory.ext_get?
    intro asked
    change ((lobby.put room).put changed).room? asked = (lobby.put changed).room? asked
    rw [room?_put, room?_put, room?_put, same]
    split
    · rw [Option.map_map]
      rfl
    · rfl
  simp only [put] at rooms ⊢
  rw [rooms]

/-- A lobby that a player has left. -/
structure Without (lobby : Lobby) (number : RoomId) (player : PlayerId) (next : Lobby) : Prop where
  orderly : next.Orderly
  elsewhere : ∀ asked, asked ≠ number → next.room? asked = lobby.room? asked
  seats : ∀ other, next.Seats number other ↔ lobby.Seats number other ∧ other ≠ player
  place : ∀ before after, lobby.room? number = some before → next.room? number = some after →
    before.place = after.place

theorem Orderly.without (orderly : lobby.Orderly) (found : lobby.room? number = some room)
    (id : rest.id = room.id) (config : rest.config = room.config)
    (players : rest.players = room.players.erase player) (place : rest.place = room.place)
    (sound : rest.players ≠ [] → rest.Sound) (config' : next.config = lobby.config)
    (elsewhere : ∀ asked, asked ≠ number → next.room? asked = lobby.room? asked)
    (here : next.room? number = if rest.players = [] then none else some rest) :
    lobby.Without number player next := by
  have remaining : ∀ {after}, next.room? number = some after → after = rest ∧ rest.players ≠ [] := by
    intro after found'
    rw [here] at found'
    split at found'
    · cases found'
    · next stays => exact ⟨(Option.some.inj found').symm, stays⟩
  refine ⟨orderly.of_room? config' elsewhere ?_, elsewhere, ?_, ?_⟩
  · intro after found'
    rcases remaining found' with ⟨rfl, stays⟩
    exact ⟨id.trans (orderly.filed found), config.trans (orderly.alike found), stays, sound stays⟩
  · intro other
    have erased : other ∈ rest.players ↔ other ∈ room.players ∧ other ≠ player := by
      rw [players, (orderly.sound found).distinct.mem_erase_iff, and_comm]
    rw [seats_iff found, ← erased]
    constructor
    · rintro ⟨after, found', member⟩
      rcases remaining found' with ⟨rfl, _⟩
      exact member
    · intro member
      have stays : rest.players ≠ [] := List.ne_nil_of_mem member
      exact ⟨rest, by rw [here, if_neg stays], member⟩
  · intro before after found' found''
    rw [found] at found'
    cases found'
    rcases remaining found'' with ⟨rfl, _⟩
    exact place.symm

end Lobby

namespace Server

variable {server : Server} {number : RoomId} {room : Room} {identity : Identity}

/-! ## Departures -/

theorem depart_eq_ok (orderly : server.lobby.Orderly)
    (seated : server.lobby.Seats number identity.player) :
    ∃ lobby mail, server.depart identity number =
        .ok (({ server with lobby } : Server).saying mail) ∧
      server.lobby.Without number identity.player lobby := by
  rcases seated with ⟨room, found, member⟩
  rcases (orderly.sound found).leave member with
    ⟨departure, rest, left, id, config, players, place, empty, sound⟩
  have filed : rest.id = number := id.trans (orderly.filed found)
  have left' := Lobby.leave_of_room? found left
  have put := Lobby.room?_put_of_room? found filed
  have without {next : Lobby} (config' : next.config = server.lobby.config)
      (elsewhere : ∀ asked, asked ≠ number → next.room? asked = server.lobby.room? asked)
      (here : next.room? number = if rest.players = [] then none else some rest) :
      server.lobby.Without number identity.player next :=
    orderly.without found id config players place sound config' elsewhere here
  have stayed (stays : rest.players ≠ []) :
      server.lobby.Without number identity.player (server.lobby.put rest) := by
    refine without rfl ?_ ?_
    · intro asked other
      rw [put, if_neg other]
    · rw [put, if_pos rfl, if_neg stays]
  cases departure with
  | emptied =>
    simp only [depart, left', tellRoom_eq_saying]
    refine ⟨(server.lobby.put rest).remove number, _, rfl, without rfl ?_ ?_⟩
    · intro asked other
      rw [Lobby.room?_remove, if_neg other, put, if_neg other]
    · rw [Lobby.room?_remove, if_pos rfl, if_pos (empty.1 rfl)]
  | endedGame =>
    have stays : rest.players ≠ [] := fun gone => by cases empty.2 gone
    simp only [depart, left', tellRoom_eq_saying]
    -- the room has been concluded already, so ending its game only says so
    have here : (server.lobby.put rest).room? number = some rest := (put number).trans (if_pos rfl)
    generalize Server.roomMail _ _ _ _ = mail
    have finished := @finishGame_eq_saying { server with lobby := server.lobby.put rest } _ _ here
      mail .forfeit
    rw [(sound stays).conclude, Lobby.put_put rfl] at finished
    rw [finished]
    exact ⟨server.lobby.put rest, _, rfl, stayed stays⟩
  | stayed =>
    have stays : rest.players ≠ [] := fun gone => by cases empty.2 gone
    simp only [depart, left', tellRoom_eq_saying]
    refine ⟨server.lobby.put rest, ?_⟩
    split
    · rw [tellTurn_eq_saying, saying_saying]
      exact ⟨_, rfl, stayed stays⟩
    · exact ⟨_, rfl, stayed stays⟩

/-- Whoever leaves a room and goes back to the lobby leaves a linked server. -/
theorem Linked.depart (linked : server.Linked) {id : ConnectionId} {session : Session}
    (found : server.sessions.get? id = some session) (carries : session.identity = some identity)
    (inside : session.location.room? = some number) :
    ∃ lobby mail, server.depart identity number =
        .ok (({ server with lobby } : Server).saying mail) ∧
      (({ server with lobby } : Server).move id .lobby).Linked := by
  rcases linked.exists_seat found inside with ⟨identity', room, carries', here, member, _⟩
  cases Option.some.inj (carries.symm.trans carries')
  have seated : server.lobby.Seats number identity.player := ⟨room, here, member⟩
  rcases depart_eq_ok linked.orderly seated with ⟨lobby, mail, left, without⟩
  have player := Session.player?_of_identity carries
  exact ⟨lobby, mail, left, linked.leave found player seated without.orderly without.elsewhere
    without.seats without.place⟩

/-! ## Starts -/

/-- A full room that still waits can be started. -/
theorem exists_start {lobby : Lobby} (found : lobby.room? number = some room)
    (filed : room.id = number) (sound : room.Sound) (two : 2 ≤ room.config.capacity)
    (few : room.config.capacity ≤ 30) (full : room.IsFull) (waiting : room.stage = .waiting) :
    ∃ started next, lobby.start number = .ok next ∧ next.config = lobby.config ∧
      (∀ asked, next.room? asked = if asked = number then some started else lobby.room? asked) ∧
      started.id = number ∧ started.config = room.config ∧ started.players = room.players ∧
      started.place = .game number ∧ started.Sound := by
  have enough : 2 ≤ room.players.length := two.trans full
  rcases sound.start waiting enough few (lobby.deals.headD default) with ⟨game, dealt, sound'⟩
  refine ⟨{ room with stage := .playing game }, _, Lobby.start_of_room? found dealt, rfl, ?_, filed,
    rfl, rfl, congrArg Location.game filed, sound'⟩
  exact @Lobby.room?_put_of_room? lobby number room { room with stage := .playing game } found filed

/-- If somebody takes the last seat of a room, it can be started. -/
theorem exists_start_of_join {lobby next : Lobby} {player : PlayerId} {joined : Room}
    (rooms : ∀ {room}, lobby.room? number = some room → room.id = number ∧ room.Sound ∧
      2 ≤ room.config.capacity ∧ room.config.capacity ≤ 30)
    (taken : lobby.join number player = .ok next) (found : next.room? number = some joined)
    (full : joined.IsFull) : ∃ started, next.start number = .ok started := by
  rcases Lobby.join_eq_ok taken with ⟨room, seated, here, seat, rfl⟩
  rcases rooms here with ⟨filed, sound, two, few⟩
  have sound' := sound.join seat
  rcases Room.join_eq_ok seat with ⟨waiting, _, _, rfl⟩
  have put := @Lobby.room?_put_of_room? _ _ _
    { room with players := room.players ++ [player] } here filed
  have here' := (put number).trans (if_pos rfl)
  cases Option.some.inj (here'.symm.trans found)
  rcases exists_start here' filed sound' two few full waiting with ⟨_, started, dealt, _⟩
  exact ⟨started, dealt⟩

theorem Linked.startIfFull (linked : server.Linked) (found : server.lobby.room? number = some room) :
    ∃ next, server.startIfFull number = .ok next ∧ next.Linked := by
  simp only [Server.startIfFull, Lobby.find_of_room? found]
  split
  · exact ⟨server, rfl, linked⟩
  · next ready =>
    rw [not_or, not_not, not_not, Room.isJoinable_iff] at ready
    have alike := linked.orderly.alike found
    rcases exists_start found (linked.orderly.filed found) (linked.orderly.sound found)
      (alike ▸ linked.orderly.two_le_capacity) (alike ▸ linked.orderly.capacity_le) ready.1 ready.2
      with ⟨started, lobby, dealt, config, rooms, id, config', players, place, sound⟩
    have elsewhere : ∀ asked, asked ≠ number → lobby.room? asked = server.lobby.room? asked := by
      intro asked other
      rw [rooms, if_neg other]
    have here : lobby.room? number = some started := by
      rw [rooms, if_pos rfl]
    have orderly : lobby.Orderly := by
      apply linked.orderly.of_room? config elsewhere
      intro after found'
      rw [here] at found'
      cases found'
      exact ⟨id, config'.trans alike, players ▸ linked.orderly.occupied found, sound⟩
    have chosen : ∀ {id session}, server.sessions.get? id = some session →
        (id ∈ room.players.filterMap server.sessions.findPlayer? ↔
          ∃ player, session.player? = some player ∧ player ∈ started.players) := by
      intro id session found'
      rw [List.mem_filterMap, players]
      constructor
      · rintro ⟨player, member, leads⟩
        rcases (linked.indexed.byPlayer _ _).1 leads with ⟨holder, found'', carries⟩
        rw [found'] at found''
        cases found''
        exact ⟨player, carries, member⟩
      · rintro ⟨player, carries, member⟩
        exact ⟨player, member, (linked.indexed.byPlayer _ _).2 ⟨session, found', carries⟩⟩
    have same : ∀ other, other ∈ started.players ↔ server.lobby.Seats number other := by
      intro other
      rw [players, Lobby.seats_iff found]
    have moved := linked.advance chosen orderly elsewhere here same
    rw [place] at moved
    simp only [dealt, tellTurn_eq_saying, tellPlayers_eq_saying, tellRoom_eq_saying]
    exact ⟨_, rfl, ((moved.saying _).saying _).saying _⟩

/-! ## Turns -/

/-- A game in which somebody has acted is put back, and its room is concluded if it is over. -/
theorem Linked.acted (linked : server.Linked) {game next : Game} {move : Move}
    (found : server.lobby.room? number = some room) (playing : room.stage = .playing game)
    (action : move.IsAction) (accepted : game.attempt move = .ok next) :
    ({ server with
      lobby := server.lobby.put ({ room with stage := .playing next } : Room).conclude.2 } :
        Server).Linked := by
  let played : Room := { room with stage := .playing next }
  have sound := (linked.orderly.sound found).acted playing action accepted
  have filed := linked.orderly.filed found
  have id : played.conclude.2.id = number := (Room.id_conclude played).trans filed
  have put := Lobby.room?_put_of_room? found id
  have elsewhere : ∀ asked, asked ≠ number →
      (server.lobby.put played.conclude.2).room? asked = server.lobby.room? asked := by
    intro asked other
    rw [put, if_neg other]
  have here := (put number).trans (if_pos rfl)
  have players : played.conclude.2.players = room.players := Room.players_conclude played
  have config : played.conclude.2.config = room.config := Room.config_conclude played
  have place : played.place = room.place := Room.place_congr rfl (by simp [played, playing])
  refine linked.replace (linked.orderly.of_room? rfl elsewhere ?_) elsewhere found here players
    ((Room.place_conclude played).trans place).symm
  intro after found'
  rw [here] at found'
  cases found'
  exact ⟨id, config.trans (linked.orderly.alike found), players ▸ linked.orderly.occupied found,
    sound⟩

/-- A game that goes on after a move is put back. -/
theorem Linked.putGame (linked : server.Linked) {game next : Game} {move : Move}
    (found : server.lobby.room? number = some room) (playing : room.stage = .playing game)
    (action : move.IsAction) (accepted : game.attempt move = .ok next)
    (on : next.phase ≠ .finished) : (server.putGame room next).Linked := by
  have acted := linked.acted found playing action accepted
  have open_still : ({ room with stage := .playing next } : Room).conclude.2 =
      { room with stage := .playing next } := by
    simp [Room.conclude, Game.isFinished, on]
  rwa [open_still] at acted

/-- A game that may be over after a move is put back and ended. -/
theorem Linked.finishGame (linked : server.Linked) {game next : Game} {move : Move}
    (found : server.lobby.room? number = some room) (playing : room.stage = .playing game)
    (action : move.IsAction) (accepted : game.attempt move = .ok next) (mail : List Delivery)
    (ending : Ending) : (((server.putGame room next).saying mail).finishGame number ending).Linked := by
  let played : Room := { room with stage := .playing next }
  have filed : room.id = number := linked.orderly.filed found
  have here : (server.putGame room next).lobby.room? number = some played :=
    (@Lobby.room?_put_of_room? _ _ _ played found filed number).trans (if_pos rfl)
  have twice : (server.lobby.put played).put played.conclude.2 =
      server.lobby.put played.conclude.2 := Lobby.put_put (Room.id_conclude played)
  have acted := linked.acted found playing action accepted
  rw [← twice] at acted
  rw [finishGame_eq_saying here]
  exact acted.saying _

end Server

end CardTable
