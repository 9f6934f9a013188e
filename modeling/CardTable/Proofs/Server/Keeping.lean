import CardTable.Proofs.Server.Effects

/-!
# What a player keeps

A seat and a hand belong to a player, whatever others do and however others come and go. Only the
player's own connection can give them up: by leaving the room, by making a move in the game, or by
ending.
-/

namespace CardTable

namespace Lobby

variable {lobby middle next : Lobby} {number : RoomId} {player : PlayerId} {hand : List Card}

/-- A player sits in a room and holds a hand in its game, which is on or over. -/
def HoldsHand (lobby : Lobby) (number : RoomId) (player : PlayerId) (hand : List Card) : Prop :=
  ∃ room game, lobby.room? number = some room ∧ player ∈ room.players ∧
    room.game? = some game ∧ game.hand? player = some hand

/-- A player who has sat in a room still sits there, with the same hand if there has been one. -/
structure Spares (lobby next : Lobby) (player : PlayerId) : Prop where
  seats : ∀ {number}, lobby.Seats number player → next.Seats number player
  hands : ∀ {number hand}, lobby.HoldsHand number player hand → next.HoldsHand number player hand

theorem Spares.refl (lobby : Lobby) (player : PlayerId) : lobby.Spares lobby player :=
  ⟨id, id⟩

theorem Spares.trans (first : lobby.Spares middle player) (second : middle.Spares next player) :
    lobby.Spares next player :=
  ⟨fun seats => second.seats (first.seats seats), fun holds => second.hands (first.hands holds)⟩

/-- A player is spared if the one room in which something happens keeps the player and the hand. -/
theorem spares_of_room (elsewhere : ∀ asked, asked ≠ number → next.room? asked = lobby.room? asked)
    (here : ∀ room, lobby.room? number = some room → player ∈ room.players →
      ∃ rest, next.room? number = some rest ∧ player ∈ rest.players ∧
        ∀ game, room.game? = some game →
          ∃ after, rest.game? = some after ∧ after.hand? player = game.hand? player) :
    lobby.Spares next player := by
  constructor
  · rintro asked ⟨room, found, member⟩
    by_cases same : asked = number
    · subst same
      rcases here room found member with ⟨rest, found', member', _⟩
      exact ⟨rest, found', member'⟩
    · exact ⟨room, (elsewhere asked same).trans found, member⟩
  · rintro asked hand ⟨room, game, found, member, on, holds⟩
    by_cases same : asked = number
    · subst same
      rcases here room found member with ⟨rest, found', member', hands⟩
      rcases hands game on with ⟨after, on', hand'⟩
      exact ⟨rest, after, found', member', on', hand'.trans holds⟩
    · exact ⟨room, game, (elsewhere asked same).trans found, member, on, holds⟩

section Without

variable {room rest : Room} {leaver : PlayerId} {game after : Game}

/-- If somebody goes out of a room, the others keep their seats there, and what the game leaves them
of their hands. -/
theorem spares_of_without (found : lobby.room? number = some room) (filed : rest.id = number)
    (players : rest.players = room.players.erase leaver) (apart : player ≠ leaver)
    (hands : ∀ game, room.game? = some game →
      ∃ after, rest.game? = some after ∧ after.hand? player = game.hand? player) :
    lobby.Spares (lobby.put rest) player := by
  have rooms := room?_put_of_room? found filed
  refine spares_of_room (fun asked other => (rooms asked).trans (if_neg other)) ?_
  intro room' found' member
  cases Option.some.inj (found.symm.trans found')
  refine ⟨rest, (rooms number).trans (if_pos rfl), ?_, hands⟩
  rw [players]
  exact (List.mem_erase_of_ne apart).2 member

theorem spares_of_removed (found : lobby.room? number = some room) (filed : rest.id = number)
    (players : rest.players = room.players.erase leaver) (apart : player ≠ leaver)
    (playing : room.stage = .playing game) (removed : game.remove leaver = .ok after)
    (on : rest.game? = some after) : lobby.Spares (lobby.put rest) player := by
  refine spares_of_without found filed players apart fun game' on' => ⟨after, on, ?_⟩
  rw [Room.game?, playing] at on'
  cases on'
  exact Game.hand?_of_remove removed apart

/-- A room that is closed when the last player goes out was nobody else's. -/
theorem spares_of_emptied (found : lobby.room? number = some room) (filed : rest.id = number)
    (players : rest.players = room.players.erase leaver) (apart : player ≠ leaver)
    (empty : rest.players = []) : lobby.Spares ((lobby.put rest).remove number) player := by
  have rooms := room?_put_of_room? found filed
  refine @spares_of_room _ _ number _ (fun asked other => ?_) fun room' found' member => ?_
  · exact (room?_remove _ _ _).trans ((if_neg other).trans ((rooms asked).trans (if_neg other)))
  · cases Option.some.inj (found.symm.trans found')
    have still := (List.mem_erase_of_ne apart).2 member
    rw [← players, empty] at still
    cases still

end Without

end Lobby

/-- Requests by which a player may give up a seat or get another hand. -/
def Request.GivesUp : Request → Bool
  | leaveRoom | play _ | draw | pass => true
  | _ => false

namespace Server

variable {server next : Server} {id asked : ConnectionId} {session later : Session}
  {player : PlayerId} {identity : Identity} {number : RoomId} {room : Room} {own : Prop}

/-! ## Requests -/

/-- Something is done for a connection that gives nobody a name. Everybody stays who they are, and
everybody else keeps the seat and the hand; if the connection gives up nothing of its `own`, so does
its own player. -/
structure KeepsPlayers (server next : Server) (id : ConnectionId) (own : Prop) : Prop where
  people : server.SamePeople next
  issued : next.nextPlayer = server.nextPlayer
  spares : ∀ player, (own → server.sessions.findPlayer? player ≠ some id) →
    server.lobby.Spares next.lobby player

theorem keepsPlayers_of_lobby (people : server.SamePeople next)
    (issued : next.nextPlayer = server.nextPlayer) (lobby : next.lobby = server.lobby) :
    server.KeepsPlayers next id own :=
  ⟨people, issued, fun _ _ => lobby ▸ .refl _ _⟩

theorem keepsPlayers_tell (server : Server) (notice : Notice) :
    server.KeepsPlayers (server.tell asked notice) id own :=
  keepsPlayers_of_lobby (samePeople_of_eq rfl) rfl rfl

/-- A game in which all others keep their hands is put back, or is over. -/
theorem keepsPlayers_of_stage {game after : Game} {stage : Stage} {mail : List Delivery}
    (acts : own) (linked : server.Linked) (sits : server.Sits id identity.player number)
    (found : server.lobby.room? number = some room) (playing : room.stage = .playing game)
    (on : stage.game? = some after)
    (hands : ∀ player, player ≠ identity.player → after.hand? player = game.hand? player) :
    server.KeepsPlayers
      (({ server with lobby := server.lobby.put { room with stage } } : Server).saying mail)
      id own := by
  have rooms := room?_of_stage linked found stage
  refine ⟨samePeople_of_eq rfl, rfl, fun player other => ?_⟩
  refine Lobby.spares_of_room (fun asked apart => (rooms asked).trans (if_neg apart)) ?_
  intro room' found' member
  cases Option.some.inj (found.symm.trans found')
  refine ⟨_, (rooms number).trans (if_pos rfl), member, fun game' on' => ⟨after, on, ?_⟩⟩
  rw [Room.game?, playing] at on'
  cases on'
  refine hands player ?_
  rintro rfl
  exact other acts sits.leads

theorem keepsPlayers_of_play {card : Card} (acts : own) (linked : server.Linked)
    (live : server.sessions.get? id = some session)
    (served : server.servePlay id card = .ok next) : server.KeepsPlayers next id own := by
  rcases exists_of_servePlay linked live served with
    ⟨identity, number, room, game, played, after, sits, _, found, playing, accepted, answered⟩
  have hands (player : PlayerId) (apart : player ≠ identity.player) :
      after.hand? player = game.hand? player :=
    (Game.hand?_of_play accepted player).trans (if_neg apart)
  dsimp only at answered
  split at answered
  · next ended =>
    have before := (room?_of_stage linked found (.playing after) number).trans (if_pos rfl)
    have concluded : ({ room with stage := .playing after } : Room).conclude.2 =
        { room with stage := .finished after } := by
      simp [Room.conclude, ended]
    have twice : (server.putGame room after).lobby.put { room with stage := .finished after } =
        server.lobby.put { room with stage := .finished after } := Lobby.put_put rfl
    rw [finishGame_eq_saying before, concluded, twice] at answered
    subst answered
    exact keepsPlayers_of_stage acts linked sits found playing rfl hands
  · rw [tellTurn_eq_saying, saying_saying] at answered
    subst answered
    exact keepsPlayers_of_stage acts linked sits found playing rfl hands

theorem keepsPlayers_of_draws (acts : own) (linked : server.Linked) (draws : server.Draws id next) :
    server.KeepsPlayers next id own := by
  cases draws with
  | @intro identity number room game after move deed sits _ found playing draws accepted =>
    rw [tellTurn_eq_saying, saying_saying]
    refine keepsPlayers_of_stage acts linked sits found playing rfl fun player apart => ?_
    rcases draws with rfl | rfl
    · rcases Game.map_snd_eq_ok accepted with ⟨cards, drawn⟩
      exact (Game.hand?_of_drawCard drawn player).trans (if_neg apart)
    · rcases Game.map_snd_eq_ok accepted with ⟨passed, drawn⟩
      have hands := Game.hand?_of_pass drawn player
      split at hands
      · exact hands
      · exact hands.trans (if_neg apart)

/-- Somebody who leaves a room takes nothing from those who stay. -/
theorem spares_of_depart (linked : server.Linked)
    (seated : server.lobby.Seats number identity.player)
    (left : server.depart identity number = .ok next) :
    next.nextPlayer = server.nextPlayer ∧
      ∀ player, player ≠ identity.player → server.lobby.Spares next.lobby player := by
  rcases seated with ⟨room, found, member⟩
  rcases departs_of_depart linked found member left with ⟨rest, filed, _, players, departs⟩
  cases departs with
  | emptied empty =>
    exact ⟨rfl, fun player apart => Lobby.spares_of_emptied found filed players apart empty⟩
  | ended _ playing removed finished =>
    exact ⟨rfl, fun player apart => Lobby.spares_of_removed found filed players apart playing
      removed (congrArg Stage.game? finished)⟩
  | idle _ _ same =>
    exact ⟨rfl, fun player apart => Lobby.spares_of_without found filed players apart
      fun game on => ⟨game, (congrArg Stage.game? same).trans on, rfl⟩⟩
  | goes_on _ playing removed stage =>
    exact ⟨rfl, fun player apart => Lobby.spares_of_removed found filed players apart playing
      removed (congrArg Stage.game? stage)⟩

theorem keepsPlayers_of_leaveRoom (acts : own) (linked : server.Linked)
    (live : server.sessions.get? id = some session)
    (served : server.serveLeaveRoom id = .ok next) : server.KeepsPlayers next id own := by
  rw [serveLeaveRoom_eq] at served
  rcases exists_of_inRoom live served with ⟨identity, number, carries, inside, answered⟩
  have sits := linked.sits live carries inside
  cases left : server.depart identity number with
  | error error =>
    simp only [left] at answered
    cases answered
  | ok middle =>
    simp only [left] at answered
    cases answered
    rcases spares_of_depart linked sits.seats left with ⟨issued, spares⟩
    have same := samePeople_of_eq (sessions_depart left)
    have moved := moved_moveAll middle [id] .lobby
    refine ⟨⟨moved.byPlayer.trans same.byPlayer, fun asked => (moved.identity asked).trans
      (same.identity asked)⟩, issued, fun player other => spares player ?_⟩
    rintro rfl
    exact other acts sits.leads

/-- Somebody who comes into a room takes nothing from those who are there. -/
theorem keepsPlayers_of_seating (seating : server.Seating id next) :
    server.KeepsPlayers next id own := by
  cases seating with
  | @intro identity number lobby room mail command leads named elsewhere here filed alike waiting
      free same before entered enters mail_eq started =>
    let joined : Room := { room with players := room.players ++ [identity.player] }
    let inside : Server := (server.entered lobby id number).saying mail
    have moved := moved_moveAll { server with lobby } [id] (.room number)
    have spares {after : Lobby} {stage : Stage} (player : PlayerId)
        (elsewhere' : ∀ asked, asked ≠ number → after.room? asked = server.lobby.room? asked)
        (here' : after.room? number = some { joined with stage }) :
        server.lobby.Spares after player := by
      refine Lobby.spares_of_room elsewhere' fun room' found member => ?_
      cases same room' found
      refine ⟨_, here', List.mem_append_left _ member, fun game on => ?_⟩
      rw [Room.game?, waiting] at on
      cases on
    rcases @exists_begun inside number joined here filed next started with
      ⟨rfl, _⟩ | ⟨game, begun, hand, _, _, _, _, rooms, promoted, _, rfl⟩
    · exact ⟨⟨moved.byPlayer, moved.identity⟩, moved.nextPlayer,
        fun player _ => @spares lobby room.stage player elsewhere here⟩
    · refine ⟨⟨promoted.byPlayer.trans moved.byPlayer, fun asked =>
        (promoted.identity asked).trans (moved.identity asked)⟩,
        promoted.nextPlayer.trans moved.nextPlayer, fun player _ =>
        @spares begun.lobby _ player (fun asked apart => ?_) ((rooms number).trans (if_pos rfl))⟩
      exact (rooms asked).trans ((if_neg apart).trans (elsewhere asked apart))

/-- Whatever is asked for but a name, nobody loses anything by it but the one who asks. -/
theorem keepsPlayers_of_request {request : Request} (linked : server.Linked)
    (live : server.sessions.get? id = some session) (served : server.serve id request = .ok next)
    (unnamed : ∀ nickname, request ≠ .name nickname) :
    server.KeepsPlayers next id (request.GivesUp = true) := by
  cases request with
  | ok | pong =>
    cases served
    exact keepsPlayers_of_lobby (samePeople_of_eq rfl) rfl rfl
  | name nickname => exact (unnamed nickname rfl).elim
  | listRooms =>
    rcases exists_of_inLobby live served with ⟨_, _, _, answered⟩
    cases answered
    exact keepsPlayers_tell server _
  | joinRoom number =>
    rcases seating_of_joinRoom linked live served with same | seating
    · exact same ▸ keepsPlayers_tell server _
    · exact keepsPlayers_of_seating seating
  | createRoom =>
    rcases seating_of_createRoom linked live served with same | seating
    · exact same ▸ keepsPlayers_tell server _
    · exact keepsPlayers_of_seating seating
  | leaveRoom => exact keepsPlayers_of_leaveRoom rfl linked live served
  | roomInfo =>
    rcases exists_of_inRoom live served with ⟨_, number, _, _, answered⟩
    dsimp only at answered
    split at answered
    · cases answered
      exact keepsPlayers_tell server _
    · cases answered
  | state =>
    change server.serveState id = .ok next at served
    simp only [serveState, live, checked] at served
    split at served
    · cases served
      exact keepsPlayers_tell server _
    · cases served
  | play card => exact keepsPlayers_of_play rfl linked live served
  | draw => exact keepsPlayers_of_draws rfl linked (draws_of_serveDraw linked live served)
  | pass => exact keepsPlayers_of_draws rfl linked (draws_of_servePass linked live served)

/-- A session that ends takes nothing from anybody but its own player. -/
theorem spares_of_terminate (linked : server.Linked) (id : ConnectionId) (reason : EndReason) :
    (server.terminate id reason).nextPlayer = server.nextPlayer ∧
      ∀ player, server.sessions.findPlayer? player ≠ some id →
        server.lobby.Spares (server.terminate id reason).lobby player := by
  cases seat : server.seated? id with
  | none =>
    rcases terminate_of_free seat reason with ⟨cause, ended⟩
    rw [ended]
    exact ⟨rfl, fun player _ => .refl _ player⟩
  | some seated =>
    rcases seated with ⟨identity, number⟩
    have sits := (linked.sits_of_seated? seat).1
    let dead := server.roomMail number (.dead identity.nickname) (some identity.player)
    rcases depart_eq_ok (linked.saying dead).orderly sits.seats with ⟨lobby, rest, left, _⟩
    have unseated : server.unseat id =
        ({ server.saying dead with lobby } : Server).saying rest := by
      simp only [unseat, seat, tellRoom_eq_saying]
      rw [left]
    rcases spares_of_depart (linked.saying dead) sits.seats left with ⟨_, spares⟩
    rcases (server.unseat id).shut_eq id reason with ⟨cause, shut⟩
    rw [terminate_eq, shut, unseated]
    refine ⟨rfl, fun player other => spares player ?_⟩
    rintro rfl
    exact other sits.leads

end Server

end CardTable
