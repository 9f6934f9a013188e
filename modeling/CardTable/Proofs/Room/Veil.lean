import CardTable.Proofs.Game.Hidden
import CardTable.Proofs.Room.Lobby
import CardTable.Proofs.Room.Stages
import CardTable.Session.Register

/-!
# Veils over rooms

There are things that nobody looks at while a request is served: the buffers of the sessions and what
they are configured to, what was said before, and a hand whose player does nothing. A veil says in
which of these things a server may be different. What happens in rooms and lobbies can as well happen
behind a veil, and the hidden hand stays where it is.
-/

namespace CardTable

/-! ## Directories -/

namespace Directory

variable {κ : Type} {α : Type} [LT κ] {directory : Directory κ α} {change : κ → α → α}

@[simp]
theorem keys_mapEntries (directory : Directory κ α) (change : κ → α → α) :
    (directory.mapEntries change).keys = directory.keys := by
  simp [keys, mapEntries]

@[simp]
theorem size_mapEntries (directory : Directory κ α) (change : κ → α → α) :
    (directory.mapEntries change).size = directory.size := by
  simp [size, mapEntries]

variable [DecidableEq κ] [LE κ] [Std.LawfulOrderLT κ] [Std.IsLinearOrder κ]

theorem modify_mapEntries {key : κ} {alter alter' : α → α}
    (same : ∀ value, directory.get? key = some value →
      alter' (change key value) = change key (alter value)) :
    (directory.mapEntries change).modify key alter' =
      (directory.modify key alter).mapEntries change := by
  apply ext_get?
  intro asked
  rw [get?_modify, get?_mapEntries, get?_mapEntries, get?_modify]
  split
  · next here =>
    subst here
    cases found : directory.get? asked with
    | none => rfl
    | some value => exact congrArg some (same value found)
  · rfl

theorem erase_mapEntries (directory : Directory κ α) (change : κ → α → α) (key : κ) :
    (directory.mapEntries change).erase key = (directory.erase key).mapEntries change := by
  apply ext_get?
  intro asked
  rw [get?_erase, get?_mapEntries, get?_mapEntries, get?_erase]
  split <;> rfl

theorem insert_mapEntries [DecidableLT κ] {key : κ} {value : α} (same : change key value = value) :
    (directory.mapEntries change).insert key value =
      (directory.insert key value).mapEntries change := by
  apply ext_get?
  intro asked
  rw [get?_insert, get?_mapEntries, get?_mapEntries, get?_insert]
  split
  · next here => rw [here, Option.map_some, same]
  · rfl

end Directory

/-- Other cards, but not none, in the hand of somebody who sits in a room. -/
structure HiddenHand where
  room : RoomId
  player : PlayerId
  hand : List Card
  held : hand ≠ []

/-- Somebody sits in a room, has been dealt in there, and holds cards. -/
def HiddenHand.In (hidden : HiddenHand) (room : Room) : Prop :=
  hidden.player ∈ room.players ∧ ∃ game, room.game? = some game ∧ game.Holds hidden.player

/-- What a server may be different in. -/
structure Veil where
  hidden : Option HiddenHand := none
  config : SessionConfig → SessionConfig := fun config => config
  incoming : ConnectionId → Bytes → Bytes := fun _ bytes => bytes
  outgoing : ConnectionId → Bytes → Bytes := fun _ bytes => bytes
  /-- What has been said before, the newest at the head. -/
  earlier : List Delivery := []

namespace Veil

variable (veil : Veil)

/-! ## Games -/

/-- The game of a room with what is different in it. -/
def game (number : RoomId) (game : Game) : Game :=
  match veil.hidden with
  | some hidden => if number = hidden.room then game.withHand hidden.player hidden.hand else game
  | none => game

/-- If somebody's hand is hidden in a game, there are cards in it. -/
def Holds (number : RoomId) (game : Game) : Prop :=
  ∀ hidden ∈ veil.hidden, number = hidden.room → game.Holds hidden.player

/-- A player whose hand is not the hidden one. -/
def Blind (player : PlayerId) : Prop :=
  ∀ hidden ∈ veil.hidden, player ≠ hidden.player

section Games

variable {veil} {number : RoomId} {game : Game} {player : PlayerId}

/-- A game is as it is, or it is the one with the hidden hand. -/
@[elab_as_elim]
theorem game_cases {motive : (Game → Game) → Prop} (plain : motive id)
    (hides : ∀ hidden ∈ veil.hidden, number = hidden.room →
      motive fun game => game.withHand hidden.player hidden.hand) : motive (veil.game number) := by
  unfold Veil.game
  split
  · next hidden here =>
    by_cases same : number = hidden.room
    · simp only [if_pos same]
      exact hides hidden here same
    · simp only [if_neg same]
      exact plain
  · exact plain

variable (veil number game)

@[simp]
theorem isFinished_game : (veil.game number game).isFinished = game.isFinished :=
  game_cases rfl fun _ _ _ => rfl

@[simp]
theorem top_game : (veil.game number game).top = game.top :=
  game_cases rfl fun _ _ _ => rfl

@[simp]
theorem currentPlayer?_game : (veil.game number game).currentPlayer? = game.currentPlayer? :=
  game_cases rfl fun hidden _ _ => game.currentPlayer?_withHand hidden.player hidden.hand

variable {veil number game}

theorem hand?_game (blind : veil.Blind player) :
    (veil.game number game).hand? player = game.hand? player :=
  game_cases rfl fun hidden here _ => by rw [Game.hand?_withHand, if_neg (blind hidden here)]

section Known

variable (holds : veil.Holds number game)

include holds

theorem standings_game : (veil.game number game).standings = game.standings :=
  game_cases rfl fun hidden here same =>
    Game.standings_withHand (holds hidden here same) hidden.held

theorem any_hand?_game (asked : PlayerId) :
    ((veil.game number game).hand? asked).any (· ≠ []) = (game.hand? asked).any (· ≠ []) :=
  game_cases rfl fun hidden here same =>
    Game.any_hand?_withHand (holds hidden here same) hidden.held asked

theorem Holds.of_attempt {move : Move} {next : Game} (accepted : game.attempt move = .ok next)
    (blind : veil.Blind move.player) : veil.Holds number next :=
  fun hidden here same => (holds hidden here same).of_attempt accepted (blind hidden here)

variable (blind : veil.Blind player)

include blind

theorem play_game (card : Card) : (veil.game number game).play player card =
    (game.play player card).map (Prod.map id (veil.game number)) := by
  refine game_cases ?_ fun hidden here same =>
    Game.play_withHand (holds hidden here same) hidden.held (blind hidden here) card
  rw [Prod.map_id, Except.map_id]
  rfl

theorem drawCard_game : (veil.game number game).drawCard player =
    (game.drawCard player).map (Prod.map id (veil.game number)) := by
  refine game_cases ?_ fun hidden here same =>
    Game.drawCard_withHand (holds hidden here same) hidden.held (blind hidden here)
  rw [Prod.map_id, Except.map_id]
  rfl

theorem pass_game : (veil.game number game).pass player =
    (game.pass player).map (Prod.map id (veil.game number)) := by
  refine game_cases ?_ fun hidden here same =>
    Game.pass_withHand (holds hidden here same) hidden.held (blind hidden here)
  rw [Prod.map_id, Except.map_id]
  rfl

theorem remove_game : (veil.game number game).remove player =
    (game.remove player).map (veil.game number) := by
  refine game_cases ?_ fun hidden here same =>
    Game.remove_withHand (holds hidden here same) hidden.held (blind hidden here)
  rw [Except.map_id]
  rfl

end Known

end Games

/-! ## Rooms -/

/-- The room with what is different in it. -/
def room (room : Room) : Room :=
  { room with stage := room.stage.mapGame (veil.game room.id) }

/-- A room in which the hidden hand, if it should be there, is. -/
def Suits (room : Room) : Prop :=
  ∀ hidden ∈ veil.hidden, room.id = hidden.room → hidden.In room

section Rooms

variable (room : Room)

@[simp]
theorem id_room : (veil.room room).id = room.id := rfl

@[simp]
theorem players_room : (veil.room room).players = room.players := rfl

@[simp]
theorem config_room : (veil.room room).config = room.config := rfl

@[simp]
theorem state_room : (veil.room room).state = room.state := by
  simp only [Room.state, Veil.room]
  cases room.stage <;> rfl

theorem isFull_room : (veil.room room).IsFull ↔ room.IsFull :=
  Iff.rfl

@[simp]
theorem summary_room : (veil.room room).summary = room.summary := by
  simp only [Room.summary, state_room, id_room]

@[simp]
theorem view_room (describe : PlayerId → Option Occupant) :
    (veil.room room).view describe = room.view describe := by
  simp only [Room.view, state_room, id_room, players_room]

@[simp]
theorem game?_room : (veil.room room).game? = room.game?.map (veil.game room.id) := by
  simp only [Room.game?, Veil.room]
  cases room.stage <;> rfl

theorem conclude_room : (veil.room room).conclude = Prod.map id veil.room room.conclude := by
  rcases room with ⟨id, config, players, waiting | game | game⟩
  · rfl
  · simp only [Room.conclude, Veil.room, Stage.mapGame, isFinished_game]
    split <;> rfl
  · rfl

theorem join_room (player : PlayerId) :
    (veil.room room).join player = (room.join player).map veil.room := by
  unfold Room.join
  simp only [state_room, players_room, id_room, isFull_room]
  split
  · rfl
  · split
    · rfl
    · split <;> rfl

end Rooms

variable {veil} {room : Room} {game : Game} {player : PlayerId}

theorem Suits.holds (suits : veil.Suits room) (has : room.game? = some game) :
    veil.Holds room.id game := by
  intro hidden here same
  rcases (suits hidden here same).2 with ⟨other, has', holds⟩
  cases Option.some.inj (has.symm.trans has')
  exact holds

/-- A game that is dealt in a room where no hand is hidden is as it is. -/
theorem game_eq_id {number : RoomId} (apart : ∀ hidden ∈ veil.hidden, number ≠ hidden.room) :
    veil.game number = id :=
  game_cases rfl fun hidden here same => (apart hidden here same).elim

theorem start_room (apart : ∀ hidden ∈ veil.hidden, room.id ≠ hidden.room) (chance : Deal) :
    (veil.room room).start chance = (room.start chance).map veil.room := by
  have plain := game_eq_id apart
  unfold Room.start
  simp only [state_room, players_room, id_room, config_room]
  split
  · rfl
  · split
    · simp only [Except.map, Veil.room, Stage.mapGame, plain]
      rfl
    · rfl

section Leaving

variable (suits : veil.Suits room) (blind : veil.Blind player)

include suits blind

theorem stageWithout_room : (veil.room room).stageWithout player =
    (room.stageWithout player).map (·.mapGame (veil.game room.id)) := by
  rcases room with ⟨number, config, players, waiting | game | game⟩
  · rfl
  · simp only [Room.stageWithout, Veil.room, Stage.mapGame, remove_game (suits.holds rfl) blind]
    cases game.remove player <;> rfl
  · rfl

theorem leave_room : (veil.room room).leave player =
    (room.leave player).map (Prod.map id veil.room) := by
  unfold Room.leave
  rw [stageWithout_room suits blind]
  by_cases absent : player ∉ room.players
  · have absent' : player ∉ (veil.room room).players := absent
    rw [if_pos absent, if_pos absent']
    rfl
  have present : ¬player ∉ (veil.room room).players := absent
  rw [if_neg absent, if_neg present]
  cases room.stageWithout player with
  | error error => rfl
  | ok stage =>
    by_cases gone : room.players.erase player = []
    · have gone' : (veil.room room).players.erase player = [] := gone
      simp only [Except.map, if_pos gone, if_pos gone']
      cases stage <;> rfl
    · have stays : ¬(veil.room room).players.erase player = [] := gone
      have concluded : ({ veil.room room with
          players := (veil.room room).players.erase player
          stage := stage.mapGame (veil.game room.id) } : Room).conclude = _ :=
        veil.conclude_room { room with players := room.players.erase player, stage }
      simp only [Except.map, if_neg gone, if_neg stays, concluded]
      rcases Room.conclude _ with ⟨_ | _, closed⟩ <;> rfl

end Leaving

/-! ## Rooms that keep the hidden hand -/

theorem Suits.conclude (suits : veil.Suits room) : veil.Suits room.conclude.2 := by
  have same : room.conclude.2.game? = room.game? := by
    rcases room with ⟨_, _, _, waiting | game | game⟩
    · rfl
    · simp only [Room.conclude]
      split <;> rfl
    · rfl
  intro hidden here at_room
  rw [Room.id_conclude] at at_room
  rw [HiddenHand.In, Room.players_conclude, same]
  exact suits hidden here at_room

theorem Suits.act {move : Move} {next : Game} (suits : veil.Suits room)
    (playing : room.stage = .playing game) (accepted : game.attempt move = .ok next)
    (blind : veil.Blind move.player) : veil.Suits { room with stage := .playing next } := by
  have has : room.game? = some game := by simp [Room.game?, playing, Stage.game?]
  intro hidden here at_room
  have holds := (suits.holds has).of_attempt accepted blind hidden here at_room
  exact ⟨(suits hidden here at_room).1, next, rfl, holds⟩

theorem Suits.stageWithout {stage : Stage} (suits : veil.Suits room) (blind : veil.Blind player)
    (without : room.stageWithout player = .ok stage) :
    veil.Suits { room with players := room.players.erase player, stage } := by
  intro hidden here at_room
  rcases suits hidden here at_room with ⟨member, game, has, holds⟩
  have stays : hidden.player ∈ room.players.erase player :=
    (List.mem_erase_of_ne (Ne.symm (blind hidden here))).2 member
  refine ⟨stays, ?_⟩
  rcases room with ⟨_, _, _, waiting | own | own⟩
  · cases has
  · cases has
    simp only [Room.stageWithout] at without
    split at without
    · next rest removed =>
      cases without
      have accepted : game.attempt (.remove player) = .ok rest := removed
      have kept := (suits.holds rfl).of_attempt accepted blind
      exact ⟨rest, rfl, kept hidden here at_room⟩
    · cases without
  · cases without
    exact ⟨game, has, holds⟩

theorem Suits.leave {departure : Departure} {rest : Room} (suits : veil.Suits room)
    (blind : veil.Blind player) (left : room.leave player = .ok (departure, rest))
    (stays : rest.players ≠ []) : veil.Suits rest := by
  rcases Room.leave_eq_ok left stays with ⟨stage, without, concluded⟩
  have kept := (suits.stageWithout blind without).conclude
  rwa [concluded] at kept

/-- No hand is hidden in a room whose last player leaves, unless it is the hand of the leaver. -/
theorem Suits.apart (suits : veil.Suits room) (blind : veil.Blind player)
    (alone : room.players.erase player = []) : ∀ hidden ∈ veil.hidden, room.id ≠ hidden.room := by
  intro hidden here at_room
  have member := (suits hidden here at_room).1
  have still := (List.mem_erase_of_ne (Ne.symm (blind hidden here))).2 member
  rw [alone] at still
  cases still

/-! ## Lobbies -/

variable (veil)

/-- The lobby with what is different in it. -/
def lobby (lobby : Lobby) : Lobby :=
  { lobby with rooms := lobby.rooms.mapEntries fun _ => veil.room }

/-- A lobby in which the hidden hand can be found. -/
def Covers (lobby : Lobby) : Prop :=
  ∀ hidden ∈ veil.hidden, ∃ room, lobby.room? hidden.room = some room ∧ hidden.In room

section Lobbies

variable (lobby : Lobby)

@[simp]
theorem room?_lobby (number : RoomId) :
    (veil.lobby lobby).room? number = (lobby.room? number).map veil.room :=
  Directory.get?_mapEntries _ _ _

theorem find_lobby (number : RoomId) :
    (veil.lobby lobby).find number = (lobby.find number).map veil.room := by
  rw [Lobby.find, Lobby.find, room?_lobby]
  cases lobby.room? number <;> rfl

theorem put_lobby (room : Room) :
    (veil.lobby lobby).put (veil.room room) = veil.lobby (lobby.put room) := by
  have rooms := @Directory.modify_mapEntries _ _ _ lobby.rooms (fun _ => veil.room) _ _ _ _ room.id
    (fun _ => room) (fun _ => veil.room room) fun _ _ => rfl
  exact congrArg (fun rooms => { lobby with rooms }) rooms

theorem remove_lobby (number : RoomId) :
    (veil.lobby lobby).remove number = veil.lobby (lobby.remove number) := by
  have rooms := lobby.rooms.erase_mapEntries (fun _ => veil.room) number
  exact congrArg (fun rooms => { lobby with rooms }) rooms

theorem create_lobby :
    (veil.lobby lobby).create = lobby.create.map (Prod.map id veil.lobby) := by
  have free : (veil.lobby lobby).freeId = lobby.freeId := by
    simp only [Lobby.freeId, Veil.lobby, Directory.keys_mapEntries]
  have rooms := @Directory.insert_mapEntries _ _ _ lobby.rooms (fun _ => veil.room) _ _ _ _ _
    lobby.freeId (.vacant lobby.freeId lobby.config) rfl
  unfold Lobby.create
  rw [free]
  simp only [Veil.lobby, Directory.size_mapEntries, rooms]
  split <;> rfl

theorem join_lobby (number : RoomId) (player : PlayerId) :
    (veil.lobby lobby).join number player = (lobby.join number player).map veil.lobby := by
  unfold Lobby.join
  rw [find_lobby]
  cases lobby.find number with
  | error error => rfl
  | ok room =>
    simp only [Except.map, bind, Except.bind, join_room]
    cases room.join player with
    | error error => rfl
    | ok joined => exact congrArg Except.ok (put_lobby veil lobby joined)

@[simp]
theorem summaries_lobby : (veil.lobby lobby).summaries = lobby.summaries := by
  simp [Lobby.summaries, Veil.lobby, Directory.values, Directory.mapEntries, Function.comp_def]

end Lobbies

variable {veil} {lobby : Lobby} {number : RoomId}

theorem start_lobby (apart : ∀ room, lobby.room? number = some room →
    ∀ hidden ∈ veil.hidden, room.id ≠ hidden.room) :
    (veil.lobby lobby).start number = (lobby.start number).map veil.lobby := by
  unfold Lobby.start
  rw [find_lobby]
  cases found : lobby.room? number with
  | none => simp [Lobby.find, found, Except.map, bind, Except.bind]
  | some room =>
    have deals : (veil.lobby lobby).deals = lobby.deals := rfl
    simp only [Lobby.find_of_room? found, Except.map, bind, Except.bind, deals,
      start_room (apart room found)]
    cases room.start (lobby.deals.headD default) with
    | error error => rfl
    | ok started =>
      have put := congrArg (fun lobby : Lobby => { lobby with deals := lobby.deals.tail })
        (put_lobby veil lobby started)
      exact congrArg Except.ok put

theorem leave_lobby (suits : ∀ room, lobby.room? number = some room → veil.Suits room)
    (blind : veil.Blind player) : (veil.lobby lobby).leave number player =
      (lobby.leave number player).map (Prod.map id veil.lobby) := by
  unfold Lobby.leave
  rw [find_lobby]
  cases found : lobby.room? number with
  | none => simp [Lobby.find, found, Except.map, bind, Except.bind]
  | some room =>
    simp only [Lobby.find_of_room? found, Except.map, bind, Except.bind,
      leave_room (suits room found) blind]
    cases room.leave player with
    | error error => rfl
    | ok left =>
      exact congrArg (fun rest => Except.ok (left.1, rest)) (put_lobby veil lobby left.2)

/-! ## Lobbies that keep the hidden hand -/

namespace Covers

variable {next : Lobby}

theorem suits (covers : veil.Covers lobby) (found : lobby.room? number = some room)
    (filed : room.id = number) : veil.Suits room := by
  intro hidden here at_room
  rcases covers hidden here with ⟨other, found', inside⟩
  rw [← at_room, filed, found] at found'
  cases found'
  exact inside

/-- Where nobody has been dealt in, no hand is hidden. -/
theorem apart (covers : veil.Covers lobby) (filed : ∀ room, lobby.room? number = some room →
    room.id = number ∧ room.game? = none) : ∀ hidden ∈ veil.hidden, number ≠ hidden.room := by
  rintro hidden here rfl
  rcases covers hidden here with ⟨room, found, _, game, has, _⟩
  have idle := (filed room found).2
  rw [has] at idle
  cases idle

theorem put (covers : veil.Covers lobby) (suits : veil.Suits room) :
    veil.Covers (lobby.put room) := by
  intro hidden here
  rcases covers hidden here with ⟨before, found, inside⟩
  rw [Lobby.room?_put]
  split
  · next at_room =>
    exact ⟨room, by rw [found, Option.map_some], suits hidden here at_room.symm⟩
  · exact ⟨before, found, inside⟩

theorem remove (covers : veil.Covers lobby)
    (apart : ∀ hidden ∈ veil.hidden, number ≠ hidden.room) : veil.Covers (lobby.remove number) := by
  intro hidden here
  rw [Lobby.room?_remove, if_neg (Ne.symm (apart hidden here))]
  exact covers hidden here

theorem create (covers : veil.Covers lobby) (opened : lobby.create = .ok (number, next)) :
    veil.Covers next := by
  rcases Lobby.create_eq_ok opened with ⟨missing, _, _, rooms⟩
  intro hidden here
  rcases covers hidden here with ⟨room, found, inside⟩
  refine ⟨room, ?_, inside⟩
  rw [rooms, if_neg, found]
  rintro same
  rw [same, missing] at found
  cases found

theorem join (covers : veil.Covers lobby)
    (filed : ∀ room, lobby.room? number = some room → room.id = number)
    (taken : lobby.join number player = .ok next) : veil.Covers next := by
  rcases Lobby.join_eq_ok taken with ⟨room, seated, found, seat, rfl⟩
  have suits := covers.suits found (filed room found)
  rcases Room.join_eq_ok seat with ⟨_, _, _, rfl⟩
  refine covers.put fun hidden here at_room => ?_
  rcases suits hidden here at_room with ⟨member, game⟩
  exact ⟨List.mem_append_left _ member, game⟩

end Covers

end Veil

end CardTable
