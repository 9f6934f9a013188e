import CardTable.Proofs.Server.Runs
import CardTable.Proofs.Server.Veil

/-!
# Steps behind a veil

Whoever leaves a room behind a veil leaves it as without the veil, and a game that is dealt behind it
is dealt the same way, and the veil stays over the result. All that is asked is that it is not the
player whose hand is hidden who leaves.
-/

namespace CardTable

/-- The player that a connection carries. -/
def Server.player? (server : Server) (id : ConnectionId) : Option PlayerId := do
  (← server.sessions.get? id).player?

/-- Tells a room whose turn it is, if a game is on there. -/
def Server.tellTurnIfOn (server : Server) (number : RoomId) : Server :=
  if (server.lobby.room? number).any fun room => room.state = .playing then server.tellTurn number
  else server

theorem Server.lobby_tellTurnIfOn (server : Server) (number : RoomId) :
    (server.tellTurnIfOn number).lobby = server.lobby := by
  rw [tellTurnIfOn, tellTurn_eq_saying]
  split <;> rfl

/-- Tells a room that its game has been dealt. -/
def Server.announceStart (server : Server) (number : RoomId) (players : List PlayerId) : Server :=
  let server := server.tellRoom number .gameStart none
  let hand player := ((server.game? number).bind (·.hand? player)).getD []
  (server.tellPlayers players fun player => .hand (hand player)).tellTurn number

theorem Server.lobby_announceStart (server : Server) (number : RoomId) (players : List PlayerId) :
    (server.announceStart number players).lobby = server.lobby := by
  simp only [announceStart, tellRoom_eq_saying, tellPlayers_eq_saying, tellTurn_eq_saying]
  rfl

theorem Lobby.leave_eq_ok {lobby next : Lobby} {number : RoomId} {player : PlayerId}
    {departure : Departure} (orderly : lobby.Orderly)
    (left : lobby.leave number player = .ok (departure, next)) :
    ∃ room rest, lobby.room? number = some room ∧ room.leave player = .ok (departure, rest) ∧
      next = lobby.put rest ∧ room.id = number ∧ rest.id = number ∧
      rest.players = room.players.erase player ∧ (departure = .emptied ↔ rest.players = []) := by
  cases found : lobby.room? number with
  | none => simp [leave, find, found, bind, Except.bind] at left
  | some room =>
    cases leaves : room.leave player with
    | error error => simp [leave, find, found, leaves, bind, Except.bind] at left
    | ok both =>
      have filed := orderly.filed found
      have member : player ∈ room.players := by
        by_contra absent
        simp [Room.leave, absent] at leaves
      rcases (orderly.sound found).leave member with
        ⟨departure', rest, leaves', id, _, players, _, emptied, _⟩
      cases leaves.symm.trans leaves'
      simp only [leave, find, found, leaves, bind, Except.bind, pure, Except.pure] at left
      cases left
      exact ⟨room, rest, rfl, leaves, rfl, filed, id.trans filed, players, emptied⟩

theorem Lobby.filed_join {lobby next : Lobby} {number : RoomId} {player : PlayerId}
    (filed : ∀ room, lobby.room? number = some room → room.id = number)
    (taken : lobby.join number player = .ok next) :
    ∀ room, next.room? number = some room → room.id = number := by
  rcases Lobby.join_eq_ok taken with ⟨room, seated, found, seat, rfl⟩
  rcases Room.join_eq_ok seat with ⟨_, _, _, rfl⟩
  let seated : Room := { room with players := room.players ++ [player] }
  have put := @Lobby.room?_put_of_room? _ _ _ seated found (filed room found) number
  intro after found'
  cases Option.some.inj (found'.symm.trans (put.trans (if_pos rfl)))
  exact filed room found

theorem Lobby.start_eq_ok {lobby next : Lobby} {number : RoomId}
    (dealt : lobby.start number = .ok next) :
    ∃ room game, lobby.room? number = some room ∧
      next = { lobby.put { room with stage := .playing game } with deals := lobby.deals.tail } := by
  cases found : lobby.room? number with
  | none => simp [start, find, found, bind, Except.bind] at dealt
  | some room =>
    cases started : room.start (lobby.deals.headD default) with
    | error error =>
      simp only [start, find, found, started, bind, Except.bind] at dealt
      cases dealt
    | ok started' =>
      simp only [start, find, found, started, bind, Except.bind, pure, Except.pure] at dealt
      cases dealt
      unfold Room.start at started
      split at started
      · cases started
      · split at started
        · next game _ =>
          cases started
          exact ⟨room, game, rfl, rfl⟩
        · cases started

namespace Veil

variable {veil : Veil} {server : Server} {id : ConnectionId} {number : RoomId}

/-! ## Outcomes -/

variable (veil) in
/-- The outcome of a request with what is different in it. -/
def outcome : Outcome → Outcome
  | .ok next => .ok (veil.server next)
  | .error failure => .error { failure with server := veil.server failure.server }

variable (veil) in
/-- One request behind the veil, and the same one without it; the hidden hand stays where it is. -/
structure Follows (plain veiled : Outcome) : Prop where
  same : veiled = veil.outcome plain
  covers : veil.Covers plain.server.lobby

theorem follows_ok {next : Server} (covers : veil.Covers next.lobby) :
    veil.Follows (.ok next) (.ok (veil.server next)) :=
  ⟨rfl, covers⟩

theorem follows_fail (covers : veil.Covers server.lobby) (cause : ServerError) :
    veil.Follows (server.fail cause) ((veil.server server).fail cause) :=
  ⟨rfl, covers⟩

theorem follows_checked {α : Type} (covers : veil.Covers server.lobby)
    (check : Except ServerError α) {serve serve' : α → Outcome}
    (follows : ∀ value, check = .ok value → veil.Follows (serve value) (serve' value)) :
    veil.Follows (server.checked check serve) ((veil.server server).checked check serve') := by
  cases check with
  | ok value => exact follows value rfl
  | error cause => exact follows_fail covers cause

/-! ## Departures and starts -/

theorem covers_finishGame {room : Room} (covers : veil.Covers server.lobby)
    (found : server.lobby.room? number = some room) (suits : veil.Suits room)
    (ending : Server.Ending) : veil.Covers (server.finishGame number ending).lobby := by
  have said := Server.finishGame_eq_saying found [] ending
  rw [Server.saying_nil] at said
  rw [said]
  exact covers.put suits.conclude

theorem tellTurnIfOn_server (server : Server) (number : RoomId) :
    (veil.server server).tellTurnIfOn number = veil.server (server.tellTurnIfOn number) := by
  have on : ((veil.server server).lobby.room? number).any (fun room => room.state = .playing) =
      (server.lobby.room? number).any fun room => room.state = .playing := by
    rw [room?_server, Option.any_map]
    congr 1
    funext room
    simp
  rw [Server.tellTurnIfOn, Server.tellTurnIfOn, on, tellTurn_server]
  split <;> rfl

theorem depart_server (orderly : server.lobby.Orderly) (covers : veil.Covers server.lobby)
    {identity : Identity} (blind : veil.Blind identity.player) :
    (veil.server server).depart identity number = (server.depart identity number).map veil.server ∧
      ∀ next, server.depart identity number = .ok next → veil.Covers next.lobby := by
  have suits : ∀ room, server.lobby.room? number = some room → veil.Suits room :=
    fun room found => covers.suits found (orderly.filed found)
  have leaves : (veil.server server).lobby.leave number identity.player = _ :=
    leave_lobby suits blind
  simp only [Server.depart, leaves]
  cases left : server.lobby.leave number identity.player with
  | error error => exact ⟨rfl, fun _ done => by cases done⟩
  | ok both =>
    rcases both with ⟨departure, lobby⟩
    rcases Lobby.leave_eq_ok orderly left with
      ⟨room, rest, found, leaves, rfl, filed, filed', players, emptied⟩
    let gone : Server := { server with lobby := server.lobby.put rest }
    have told : ({ veil.server server with lobby := veil.lobby (server.lobby.put rest) } :
        Server).tellRoom number (.leave identity.nickname) none =
          veil.server (gone.tellRoom number (.leave identity.nickname) none) :=
      veil.tellRoom_server gone number _ none
    have lobby : (gone.tellRoom number (.leave identity.nickname) none).lobby =
        server.lobby.put rest := by
      rw [Server.tellRoom_eq_saying]
      rfl
    simp only [Except.map, Prod.map_apply, id_eq, told]
    generalize gone.tellRoom number (.leave identity.nickname) none = later at lobby
    have here : later.lobby.room? number = some rest := by
      rw [lobby]
      exact (Lobby.room?_put_of_room? found filed' number).trans (if_pos rfl)
    have stays (still : departure ≠ .emptied) : veil.Suits rest :=
      (suits room found).leave blind leaves fun none => still (emptied.2 none)
    have kept (suits : veil.Suits rest) : veil.Covers later.lobby := lobby ▸ covers.put suits
    cases departure with
    | emptied =>
      have apart := (suits room found).apart blind (players.symm.trans (emptied.1 rfl))
      have removed := congrArg (fun lobby => { veil.server later with lobby })
        (veil.remove_lobby later.lobby number)
      refine ⟨congrArg Except.ok removed, ?_⟩
      rintro next ⟨⟩
      refine (kept ?_).remove (filed ▸ apart)
      intro hidden hides same
      exact (apart hidden hides ((filed.trans filed'.symm).trans same)).elim
    | endedGame =>
      have suits' := stays (by simp)
      refine ⟨congrArg Except.ok (finishGame_server here suits' .forfeit), ?_⟩
      rintro next ⟨⟩
      exact covers_finishGame (kept suits') here suits' .forfeit
    | stayed =>
      refine ⟨congrArg Except.ok (tellTurnIfOn_server later number), ?_⟩
      rintro next ⟨⟩
      have same := later.lobby_tellTurnIfOn number
      rw [Server.tellTurnIfOn] at same
      rw [same]
      exact kept (stays (by simp))

theorem moves_server (server : Server) (ids : List ConnectionId) (location : Location) :
    ids.foldl (fun server id => server.move id location) (veil.server server) =
      veil.server (ids.foldl (fun server id => server.move id location) server) := by
  induction ids generalizing server with
  | nil => rfl
  | cons id ids ih =>
    rw [List.foldl_cons, List.foldl_cons, move_server]
    exact ih _

theorem game?_server (apart : ∀ room, server.lobby.room? number = some room →
    ∀ hidden ∈ veil.hidden, room.id ≠ hidden.room) :
    (veil.server server).game? number = server.game? number := by
  simp only [Server.game?, room?_server]
  cases found : server.lobby.room? number with
  | none => rfl
  | some room => simp [game_eq_id (apart room found)]

theorem announceStart_server (apart : ∀ room, server.lobby.room? number = some room →
    ∀ hidden ∈ veil.hidden, room.id ≠ hidden.room) (players : List PlayerId) :
    (veil.server server).announceStart number players =
      veil.server (server.announceStart number players) := by
  have told := veil.tellRoom_server server number .gameStart none
  have same : (veil.server (server.tellRoom number .gameStart none)).game? number =
      (server.tellRoom number .gameStart none).game? number := by
    apply game?_server
    rw [Server.tellRoom_eq_saying]
    exact apart
  simp only [Server.announceStart, told, same, tellPlayers_server, tellTurn_server]

/-- In a room where no hand is hidden a game starts as without the veil. -/
theorem follows_begun (covers : veil.Covers server.lobby) {room : Room}
    (found : server.lobby.room? number = some room) (filed : room.id = number)
    (apart : ∀ hidden ∈ veil.hidden, number ≠ hidden.room) (game : Game) (deals : List Deal)
    (ids : List ConnectionId) :
    let playing : Room := { room with stage := .playing game }
    let dealt : Server := { server with lobby := { server.lobby.put playing with deals } }
    veil.Follows (.ok ((dealt.moveAll ids (.game number)).announceStart number room.players))
      (.ok (((veil.server dealt).moveAll ids (.game number)).announceStart number room.players)) := by
  intro playing dealt
  have moved := Server.moved_moveAll dealt ids (.game number)
  have moves : (veil.server dealt).moveAll ids (.game number) =
      veil.server (dealt.moveAll ids (.game number)) := veil.moves_server dealt ids (.game number)
  have idle : ∀ hidden ∈ veil.hidden, playing.id ≠ hidden.room :=
    fun hidden here same => apart hidden here (filed.symm.trans same)
  have only (asked : Room) (found' : dealt.lobby.room? number = some asked) : asked = playing := by
    have put := @Lobby.room?_put_of_room? _ _ _ playing found filed number
    exact Option.some.inj (found'.symm.trans (put.trans (if_pos rfl)))
  refine ⟨?_, ?_⟩
  · rw [moves, announceStart_server]
    · rfl
    · intro asked found'
      rw [moved.lobby] at found'
      rw [only asked found']
      exact idle
  · change veil.Covers ((dealt.moveAll ids (.game number)).announceStart number room.players).lobby
    rw [Server.lobby_announceStart, moved.lobby]
    exact covers.put fun hidden here same => (idle hidden here same).elim

theorem follows_startIfFull (covers : veil.Covers server.lobby)
    (filed : ∀ room, server.lobby.room? number = some room → room.id = number) :
    veil.Follows (server.startIfFull number) ((veil.server server).startIfFull number) := by
  have looked : (veil.server server).lobby.find number = _ := veil.find_lobby server.lobby number
  unfold Server.startIfFull
  rw [looked]
  cases found : server.lobby.room? number with
  | none =>
    simp only [Lobby.find, found, Except.map]
    exact follows_fail covers _
  | some room =>
    simp only [Lobby.find_of_room? found, Except.map]
    have ready : (¬(veil.room room).IsFull ∨ ¬(veil.room room).state.IsJoinable) ↔
        (¬room.IsFull ∨ ¬room.state.IsJoinable) := by
      rw [isFull_room, state_room]
    by_cases idle : ¬room.IsFull ∨ ¬room.state.IsJoinable
    · rw [if_pos idle, if_pos (ready.2 idle)]
      exact follows_ok covers
    rw [if_neg idle, if_neg (mt ready.1 idle)]
    rw [not_or, not_not, not_not, Room.isJoinable_iff] at idle
    have none : room.game? = none := by rw [Room.game?, idle.2]; rfl
    have apart : ∀ hidden ∈ veil.hidden, number ≠ hidden.room := by
      apply covers.apart
      intro other found'
      cases Option.some.inj (found.symm.trans found')
      exact ⟨filed room found, none⟩
    have started : (veil.server server).lobby.start number = _ := start_lobby (by
      intro other found'
      rw [filed other found']
      exact apart)
    rw [started]
    cases dealt : server.lobby.start number with
    | error error => exact follows_fail covers _
    | ok lobby =>
      rcases Lobby.start_eq_ok dealt with ⟨before, game, found', rfl⟩
      cases Option.some.inj (found.symm.trans found')
      exact follows_begun covers found (filed room found) apart game _ _

/-! ## Where requests are made -/

section Places

variable (veil server id) (verb : Verb)

@[simp]
theorem sender_server : (veil.server server).sender id verb = server.sender id verb := by
  have looked : (veil.server server).sessions.get? id = _ := veil.get?_sessions server.sessions id
  unfold Server.sender
  rw [looked]
  cases server.sessions.get? id <;> rfl

@[simp]
theorem inLobby_server : (veil.server server).inLobby id verb = server.inLobby id verb := by
  rw [Server.inLobby, Server.inLobby, sender_server]

@[simp]
theorem inRoom_server : (veil.server server).inRoom id verb = server.inRoom id verb := by
  rw [Server.inRoom, Server.inRoom, sender_server]

/-- A sender in a game with what is different in it. -/
def playing (playing : Server.Playing) : Server.Playing where
  identity := playing.identity
  room := veil.room playing.room
  game := veil.game playing.room.id playing.game

@[simp]
theorem identity_playing (playing : Server.Playing) :
    (veil.playing playing).identity = playing.identity := rfl

@[simp]
theorem room_playing (playing : Server.Playing) :
    (veil.playing playing).room = veil.room playing.room := rfl

@[simp]
theorem game_playing (playing : Server.Playing) :
    (veil.playing playing).game = veil.game playing.room.id playing.game := rfl

theorem inGame_server :
    (veil.server server).inGame id verb = (server.inGame id verb).map veil.playing := by
  rw [Server.inGame_eq, Server.inGame_eq, sender_server]
  cases server.sender id verb with
  | error error => rfl
  | ok who =>
    rcases who with ⟨identity, _ | _ | _ | number⟩
    · rfl
    · rfl
    · rfl
    · simp only [bind, Except.bind, room?_server]
      cases server.lobby.room? number with
      | none => rfl
      | some room => rcases room with ⟨_, _, _, waiting | game | game⟩ <;> rfl

end Places

end Veil

namespace Server

variable {server : Server} {id : ConnectionId} {verb : Verb} {number : RoomId} {identity : Identity}

theorem inRoom_eq_ok (allowed : server.inRoom id verb = .ok (identity, number)) :
    server.player? id = some identity.player := by
  rcases Game.bind_eq_ok allowed with ⟨⟨owner, location⟩, sent, rest⟩
  rcases sender_eq_ok sent with ⟨session, found, carries, _⟩
  dsimp only at rest
  split at rest
  · cases rest
    simp [player?, found, Session.player?, carries]
  · cases rest

theorem inGame_eq_ok {playing : Playing} (allowed : server.inGame id verb = .ok playing) :
    server.player? id = some playing.identity.player ∧
      playing.room.stage = .playing playing.game ∧
      ∃ number, server.lobby.room? number = some playing.room := by
  rw [inGame_eq] at allowed
  rcases Game.bind_eq_ok allowed with ⟨⟨owner, location⟩, sent, rest⟩
  rcases sender_eq_ok sent with ⟨session, found, carries, _⟩
  have player : server.player? id = some owner.player := by
    simp [player?, found, Session.player?, carries]
  cases location with
  | unnamed | lobby | room _ => cases rest
  | game number =>
    dsimp only at rest
    split at rest
    · next room found' =>
      split at rest
      · next game stage =>
        cases rest
        exact ⟨player, stage, number, found'⟩
      · cases rest
    · cases rest

end Server

end CardTable
