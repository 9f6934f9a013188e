import CardTable.Proofs.Game.InPlace
import CardTable.Proofs.Room.Run

/-!
# Rooms in place

A room can be kept in cells like its game: the state, the roster and the cells of the game are
written one after the other, the game first when somebody leaves. The file proves that the cells
always hold the room, and that a refused deed leaves every cell as it was.
-/

namespace CardTable

/-- The cells that hold a game. -/
def Game.cells (game : Game) : Cells where
  seats := game.seats
  top := game.top
  stock := game.stock
  turn := match game.phase with
    | .active turn _ => turn
    | .finished => 0
  pending := game.pending
  ended := game.isFinished
  leaderboard := game.leaderboard

@[simp]
theorem Cells.game_cells (game : Game) : game.cells.game = game := by
  rcases game with ⟨seats, top, stock, turn | finish, leaderboard⟩ <;> rfl

theorem Game.tidy_cells (game : Game) : game.cells.Tidy := by
  rcases game with ⟨seats, top, stock, turn | finish, leaderboard⟩
  · exact Cells.tidy_of_on rfl
  · exact fun _ => rfl

/-- The cells of a room. The state and the game are written apart. -/
structure RoomCells where
  id : RoomId
  config : RoomConfig
  players : List PlayerId
  state : RoomState
  game : Option Cells

/-- Something that reads and writes the cells of a room, and may be refused on the way. -/
abbrev RoomInPlace := EStateM RoomError RoomCells

namespace RoomCells

def vacant (id : RoomId) (config : RoomConfig) : RoomCells where
  id := id
  config := config
  players := []
  state := .waiting
  game := none

/-! ## The deeds, write by write -/

def join (player : PlayerId) : RoomInPlace Unit := do
  let room ← get
  if ¬room.state.IsJoinable then throw (.invalidState room.id room.state)
  else if player ∈ room.players then throw (.alreadyInRoom player room.id)
  else if room.config.capacity ≤ room.players.length then throw (.roomFull room.id)
  else modify fun cells => { cells with players := cells.players ++ [player] }

def start (chance : Deal) : RoomInPlace Unit := do
  let room ← get
  if ¬room.state.MayBecome .playing then throw (.invalidState room.id room.state)
  else
    match Game.deal room.players room.config.handSize chance with
    | .error error => throw (.game error)
    | .ok game =>
      modify fun cells => { cells with game := some game.cells }
      modify fun cells => { cells with state := .playing }

/-- Something done in the cells of the game, which keep what is written before a refusal. -/
def inGame (action : InPlace Unit) : RoomInPlace Unit := do
  match (← get).game with
  | none => return
  | some game =>
    match action game with
    | .ok _ after => modify fun cells => { cells with game := some after }
    | .error error after =>
      modify fun cells => { cells with game := some after }
      throw (.game error)

/-- Closes a game that is over, and says whether it was still open. -/
def conclude : RoomInPlace Bool := do
  let room ← get
  if room.state.IsActive ∧ room.game.any Cells.ended then
    modify fun cells => { cells with state := .finished }
    return true
  else return false

/-- Takes a player out of the game, if it is on. -/
def leaveGame (player : PlayerId) : RoomInPlace Unit := do
  if (← get).state.IsActive then inGame (Cells.remove player) else return

/-- Says what it means for the room that a player is gone. -/
def depart : RoomInPlace Departure := do
  let room ← get
  if room.players = [] then
    modify fun cells => { cells with
      state := if cells.state.IsActive then .finished else cells.state }
    return .emptied
  else
    match ← conclude with
    | true => return .endedGame
    | false => return .stayed

/-- Takes a player out of a game that is on, then off the roster. -/
def leave (player : PlayerId) : RoomInPlace Departure := do
  let room ← get
  if player ∉ room.players then throw (.notInRoom player room.id)
  else
    leaveGame player
    modify fun cells => { cells with players := cells.players.erase player }
    depart

/-- A deed that is tried in place. -/
def attempt : Room.Deed → RoomInPlace Unit
  | .join player => join player
  | .start chance => start chance
  | .leave player => do let _ ← leave player
  | .conclude => do let _ ← conclude
  | .act move _ => inGame (Cells.attempt move)

/-- The cells as a deed leaves them, also if it is refused. -/
def after (cells : RoomCells) (deed : Room.Deed) : RoomCells :=
  match attempt deed cells with
  | .ok _ later => later
  | .error _ later => later

def run (cells : RoomCells) (deeds : List Room.Deed) : RoomCells :=
  deeds.foldl after cells

/-! ## Agreement -/

/-- The cells hold the room, and those of a game that is over have nothing pending. -/
structure Holds (cells : RoomCells) (room : Room) : Prop where
  id : cells.id = room.id
  config : cells.config = room.config
  players : cells.players = room.players
  state : cells.state = room.state
  game : cells.game.map Cells.game = room.game?
  tidy : ∀ table, cells.game = some table → table.Tidy

/-- A deed in place agrees with a deed: if it is accepted, it has the same value and the cells hold
the room that the deed leads to, and if it is refused, it is refused for the same reason, with every
cell as it was. -/
def Agrees {α : Type} (cells : RoomCells) (outcome : Except RoomError (α × Room)) :
    EStateM.Result RoomError RoomCells α → Prop
  | .ok value later => ∃ next, outcome = .ok (value, next) ∧ later.Holds next
  | .error error later => outcome = .error error ∧ later = cells

variable {cells : RoomCells} {room : Room} {player : PlayerId}

theorem holds_vacant (id : RoomId) (config : RoomConfig) :
    (vacant id config).Holds (.vacant id config) :=
  ⟨rfl, rfl, rfl, rfl, rfl, fun _ unset => by cases unset⟩

theorem agrees_of_holds {α : Type} {value : α} {later : RoomCells} {next : Room}
    (holds : later.Holds next) : cells.Agrees (.ok (value, next)) (.ok value later) :=
  ⟨next, rfl, holds⟩

theorem agrees_of_error {α : Type} (error : RoomError) :
    cells.Agrees (.error error : Except RoomError (α × Room)) (.error error cells) :=
  ⟨rfl, rfl⟩

theorem agrees_unit {α : Type} {outcome : Except RoomError (α × Room)} {action : RoomInPlace α}
    (agrees : cells.Agrees outcome (action cells)) :
    cells.Agrees ((outcome.map Prod.snd).map ((), ·))
      ((do let _ ← action : RoomInPlace Unit) cells) := by
  cases written : action cells with
  | ok value later =>
    rw [written] at agrees
    rw [bind_of_ok written]
    rcases agrees with ⟨next, rfl, holds⟩
    exact agrees_of_holds holds
  | error error later =>
    rw [written] at agrees
    rw [bind_of_error written]
    rcases agrees with ⟨rfl, rfl⟩
    exact agrees_of_error error

/-! ## Joining and starting -/

theorem join_agrees (holds : cells.Holds room) (player : PlayerId) :
    cells.Agrees ((room.join player).map ((), ·)) (join player cells) := by
  rw [join, bind_of_ok (get_eq cells), holds.id, holds.config, holds.players, holds.state, Room.join]
  split
  · exact agrees_of_error _
  · split
    · exact agrees_of_error _
    · change cells.Agrees ((if room.config.capacity ≤ room.players.length then _ else _ :
        Except RoomError Room).map _) _
      split
      · exact agrees_of_error _
      · exact agrees_of_holds
          ⟨holds.id, holds.config, by simp [holds.players], holds.state, holds.game, holds.tidy⟩

theorem start_agrees (holds : cells.Holds room) (chance : Deal) :
    cells.Agrees ((room.start chance).map ((), ·)) (start chance cells) := by
  rw [start, bind_of_ok (get_eq cells), holds.id, holds.config, holds.players, holds.state,
    Room.start]
  split
  · exact agrees_of_error _
  · cases dealt : Game.deal room.players room.config.handSize chance with
    | error error => exact agrees_of_error _
    | ok game =>
      refine agrees_of_holds ⟨holds.id, holds.config, holds.players, rfl, ?_, ?_⟩
      · exact congrArg some (Cells.game_cells game)
      · rintro table ⟨⟩
        exact game.tidy_cells

/-! ## The game -/

theorem exists_cells {game : Game} (holds : cells.Holds room) (found : room.game? = some game) :
    ∃ table, cells.game = some table ∧ table.game = game := by
  rw [← holds.game] at found
  exact Option.map_eq_some_iff.1 found

/-- What is done in the cells of the game is done in the cells of the room. -/
theorem inGame_of_ok {table : Cells} {action : InPlace Unit} {next : Game}
    (found : cells.game = some table) (agrees : table.Agrees (.ok ((), next)) (action table)) :
    ∃ later, later.game = next ∧ (table.Tidy → later.Tidy) ∧
      inGame action cells = .ok () { cells with game := some later } := by
  cases written : action table with
  | error error later =>
    rw [written] at agrees
    cases agrees.1
  | ok value later =>
    rw [written] at agrees
    rcases agrees with ⟨same, tidy⟩
    cases same
    refine ⟨later, rfl, tidy, ?_⟩
    rw [inGame, bind_of_ok (get_eq cells), found]
    simp only [written]
    exact modify_eq cells _

/-- What is refused in the cells of the game writes nothing in the cells of the room. -/
theorem inGame_of_error {table : Cells} {action : InPlace Unit} {error : GameError}
    (found : cells.game = some table) (agrees : table.Agrees (.error error) (action table)) :
    inGame action cells = .error (.game error) cells := by
  cases written : action table with
  | ok value later =>
    rw [written] at agrees
    cases agrees.1
  | error cause later =>
    rw [written] at agrees
    rcases agrees with ⟨same, rfl⟩
    cases same
    have unwritten : { cells with game := some later } = cells := by rw [← found]
    rw [inGame, bind_of_ok (get_eq cells), found]
    simp only [written]
    rw [bind_of_ok (modify_eq cells _), unwritten]
    rfl

theorem act_agrees (holds : cells.Holds room) (move : Move) :
    cells.Agrees ((room.act move).map ((), ·)) (inGame (Cells.attempt move) cells) := by
  cases found : room.game? with
  | none =>
    have none : cells.game = none := Option.map_eq_none_iff.1 (holds.game.trans found)
    rw [Room.act, found, inGame, bind_of_ok (get_eq cells), none]
    exact agrees_of_holds holds
  | some game =>
    rcases exists_cells holds found with ⟨table, here, rfl⟩
    have agrees := table.attempt_agrees move
    rw [Room.act, found]
    cases accepted : table.game.attempt move with
    | error error =>
      rw [accepted] at agrees
      rw [inGame_of_error here agrees]
      simp only [accepted]
      exact agrees_of_error _
    | ok next =>
      rw [accepted] at agrees
      rcases inGame_of_ok here agrees with ⟨later, rfl, tidy, written⟩
      rw [written]
      simp only [accepted]
      refine agrees_of_holds ⟨holds.id, holds.config, holds.players, ?_, ?_, ?_⟩
      · exact holds.state.trans (Stage.state_mapGame _ _).symm
      · change some later.game = (room.stage.mapGame fun _ => later.game).game?
        rw [Room.game?] at found
        rw [Stage.game?_mapGame, found, Option.map_some]
      · rintro _ ⟨⟩
        exact tidy (holds.tidy table here)

/-! ## Concluding and leaving -/

theorem conclude_eq (cells : RoomCells) :
    conclude cells = .ok (decide (cells.state.IsActive ∧ cells.game.any Cells.ended))
      { cells with
        state := if cells.state.IsActive ∧ cells.game.any Cells.ended then .finished
          else cells.state } := by
  rw [conclude, bind_of_ok (get_eq cells)]
  split
  · next finish =>
    rw [bind_of_ok (modify_eq cells _), decide_eq_true finish]
    rfl
  · next on =>
    rw [decide_eq_false on]
    rfl

theorem depart_eq (cells : RoomCells) :
    depart cells = .ok
      (if cells.players = [] then .emptied
        else if cells.state.IsActive ∧ cells.game.any Cells.ended then .endedGame else .stayed)
      { cells with
        state := if cells.state.IsActive ∧ (cells.players = [] ∨ cells.game.any Cells.ended)
          then .finished else cells.state } := by
  rw [depart, bind_of_ok (get_eq cells)]
  by_cases gone : cells.players = []
  · rw [if_pos gone, bind_of_ok (modify_eq cells _)]
    simp only [gone, true_or, and_true]
    rfl
  · rw [if_neg gone, bind_of_ok (conclude_eq cells)]
    simp only [gone, false_or, if_false]
    by_cases finish : cells.state.IsActive ∧ cells.game.any Cells.ended
    · simp only [finish, and_self, if_true]
      rfl
    · simp only [finish, if_false]
      rfl

theorem state_of_playing {game : Game} (holds : cells.Holds room)
    (playing : room.stage = .playing game) :
    cells.state.IsActive ∧ ∃ table, cells.game = some table ∧ table.game = game := by
  have on : cells.state = .playing := by rw [holds.state, Room.state, playing]; rfl
  have found : room.game? = some game := by rw [Room.game?, playing]; rfl
  exact ⟨on, exists_cells holds found⟩

theorem state_of_not_playing (holds : cells.Holds room) (off : ∀ game, room.stage ≠ .playing game) :
    ¬cells.state.IsActive := by
  rw [holds.state, Room.state]
  cases stage : room.stage with
  | playing game => exact (off game stage).elim
  | waiting | finished game => exact RoomState.noConfusion

theorem conclude_agrees (holds : cells.Holds room) :
    cells.Agrees (.ok room.conclude) (conclude cells) := by
  rw [conclude_eq]
  by_cases on : ∃ game, room.stage = .playing game
  · rcases on with ⟨game, playing⟩
    rcases state_of_playing holds playing with ⟨active, table, here, rfl⟩
    rw [Room.conclude_of_playing playing, Cells.isFinished_game]
    simp only [active, here, Option.any_some, true_and, Bool.decide_eq_true]
    refine agrees_of_holds ⟨holds.id, holds.config, holds.players, ?_, ?_, ?_⟩
    · change _ = Stage.state _
      split
      · rfl
      · exact active
    · change _ = Stage.game? _
      split <;> rfl
    · rintro _ ⟨⟩
      exact holds.tidy table here
  · have off := state_of_not_playing holds (not_exists.1 on)
    rw [Room.conclude_of_not_playing (not_exists.1 on)]
    simp only [off, false_and, decide_false, if_false]
    exact agrees_of_holds holds

theorem leave_agrees (holds : cells.Holds room) (player : PlayerId) :
    cells.Agrees (room.leave player) (leave player cells) := by
  rw [leave, bind_of_ok (get_eq cells), holds.players, holds.id]
  by_cases member : player ∈ room.players
  · rw [if_neg (not_not.2 member)]
    by_cases on : ∃ game, room.stage = .playing game
    · rcases on with ⟨game, playing⟩
      rcases state_of_playing holds playing with ⟨active, table, here, rfl⟩
      have agrees := table.remove_agrees player
      have inside : leaveGame player cells = inGame (Cells.remove player) cells := by
        rw [leaveGame, bind_of_ok (get_eq cells), if_pos active]
      cases removed : table.game.remove player with
      | error error =>
        rw [removed] at agrees
        have refused := inside.trans (inGame_of_error here agrees)
        rw [bind_of_error refused, Room.leave, if_neg (not_not.2 member), Room.stageWithout, playing]
        simp only [removed]
        exact agrees_of_error _
      | ok rest =>
        rw [removed] at agrees
        rcases inGame_of_ok here agrees with ⟨later, rfl, tidy, written⟩
        rw [bind_of_ok (inside.trans written), bind_of_ok (modify_eq _ _), depart_eq,
          Room.leave_of_playing member playing removed]
        simp only [holds.players, active, Option.any_some, true_and, Cells.isFinished_game]
        refine agrees_of_holds ⟨holds.id, holds.config, rfl, ?_, ?_, ?_⟩
        · change _ = Stage.state _
          split
          · rfl
          · exact active
        · change _ = Stage.game? _
          split <;> rfl
        · rintro _ ⟨⟩
          exact tidy (holds.tidy table here)
    · have off := state_of_not_playing holds (not_exists.1 on)
      have outside : leaveGame player cells = .ok () cells := by
        rw [leaveGame, bind_of_ok (get_eq cells), if_neg off]
        rfl
      rw [bind_of_ok outside, bind_of_ok (modify_eq _ _), depart_eq,
        Room.leave_of_not_playing member (not_exists.1 on)]
      simp only [holds.players, off, false_and, if_false]
      exact agrees_of_holds
        ⟨holds.id, holds.config, rfl, holds.state, holds.game, holds.tidy⟩
  · rw [if_pos member, Room.leave_of_not_mem member]
    exact agrees_of_error _

/-- Every deed agrees with its writes in place. -/
theorem attempt_agrees (holds : cells.Holds room) (deed : Room.Deed) :
    cells.Agrees ((room.attempt deed).map ((), ·)) (attempt deed cells) := by
  cases deed with
  | join player => exact join_agrees holds player
  | start chance => exact start_agrees holds chance
  | leave player => exact agrees_unit (leave_agrees holds player)
  | conclude => exact agrees_unit (conclude_agrees holds)
  | act move action => exact act_agrees holds move

/-- Whatever is tried, a refused deed leaves every cell as it was, and the cells hold the room. -/
theorem holds_after (holds : cells.Holds room) (deed : Room.Deed) :
    (cells.after deed).Holds (room.after deed) ∧
      ∀ error later, attempt deed cells = .error error later →
        later = cells ∧ room.attempt deed = .error error := by
  have agrees := attempt_agrees holds deed
  rw [after, Room.after]
  cases written : attempt deed cells with
  | ok value later =>
    rw [written] at agrees
    rcases agrees with ⟨next, same, holds'⟩
    refine ⟨?_, by simp⟩
    cases accepted : room.attempt deed with
    | error error =>
      rw [accepted] at same
      cases same
    | ok other =>
      rw [accepted] at same
      cases same
      exact holds'
  | error error later =>
    rw [written] at agrees
    rcases agrees with ⟨same, rfl⟩
    cases refused : room.attempt deed with
    | ok other =>
      rw [refused] at same
      cases same
    | error cause =>
      rw [refused] at same
      cases same
      exact ⟨holds, by simp⟩

theorem holds_run (holds : cells.Holds room) (deeds : List Room.Deed) :
    (cells.run deeds).Holds (room.run deeds) := by
  induction deeds generalizing cells room with
  | nil => exact holds
  | cons deed deeds ih => exact ih (holds_after holds deed).1

end RoomCells

end CardTable
