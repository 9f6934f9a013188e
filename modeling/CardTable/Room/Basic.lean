import CardTable.Game.Moves
import CardTable.Wire.Notice

/-!
# Rooms

A room seats players until every seat is taken, then its game is dealt. The seating order is the
order of the turns. A player who leaves during the game leaves the game as well, and the game ends
early when that leaves at most one player with cards.
-/

namespace CardTable

/-- What the rooms of a lobby have in common. -/
structure RoomConfig where
  capacity : Nat := 2
  handSize : Nat := 4
  deriving DecidableEq, Repr

/-- Where a room stands, with the game it plays or has played. -/
inductive Stage
  | waiting
  | playing (game : Game)
  | finished (game : Game)

namespace Stage

def state : Stage → RoomState
  | waiting => .waiting
  | playing _ => .playing
  | finished _ => .finished

/-- The game that is on or over. -/
def game? : Stage → Option Game
  | waiting => none
  | playing game => some game
  | finished game => some game

def mapGame (change : Game → Game) : Stage → Stage
  | waiting => waiting
  | playing game => playing (change game)
  | finished game => finished (change game)

end Stage

structure Room where
  id : RoomId
  config : RoomConfig
  players : List PlayerId
  stage : Stage

/-- Why something cannot be done in the lobby or in a room. -/
inductive RoomError
  | notFound (room : RoomId)
  | roomFull (room : RoomId)
  | lobbyFull (limit : Nat)
  | alreadyInRoom (player : PlayerId) (room : RoomId)
  | notInRoom (player : PlayerId) (room : RoomId)
  | invalidState (room : RoomId) (state : RoomState)
  | game (error : GameError)
  deriving DecidableEq, Repr

def RoomError.message : RoomError → String
  | notFound room => s!"room {roomLabel room} not found"
  | roomFull room => s!"room {roomLabel room} is full"
  | lobbyFull limit => s!"lobby is full ({limit} rooms)"
  | alreadyInRoom player room => s!"player {playerLabel player} already in room {roomLabel room}"
  | notInRoom player room => s!"player {playerLabel player} not in room {roomLabel room}"
  | invalidState room state => s!"room {roomLabel room} is {state.text}"
  | game error => error.message

/-- What it means for the room that a player has left. -/
inductive Departure
  | emptied
  /-- The game was on and is over now. -/
  | endedGame
  | stayed
  deriving DecidableEq, Repr

namespace Room

/-- A new room, waiting for players. -/
def vacant (id : RoomId) (config : RoomConfig) : Room where
  id := id
  config := config
  players := []
  stage := .waiting

def state (room : Room) : RoomState :=
  room.stage.state

def game? (room : Room) : Option Game :=
  room.stage.game?

def IsFull (room : Room) : Prop :=
  room.config.capacity ≤ room.players.length

instance (room : Room) : Decidable room.IsFull :=
  inferInstanceAs (Decidable (_ ≤ _))

/-- Whether the room serves no purpose any more: nobody is in it, or its game is on with at most
one player who holds cards. -/
def ShouldClose (room : Room) : Prop :=
  room.players = [] ∨ room.state = .playing ∧ ∃ game ∈ room.game?, game.stillPlaying ≤ 1

instance (room : Room) : Decidable room.ShouldClose :=
  inferInstanceAs (Decidable (_ ∨ _ ∧ _))

/-- Gives a player the next seat. -/
def join (room : Room) (player : PlayerId) : Except RoomError Room :=
  if ¬room.state.IsJoinable then .error (.invalidState room.id room.state)
  else if player ∈ room.players then .error (.alreadyInRoom player room.id)
  else if room.IsFull then .error (.roomFull room.id)
  else .ok { room with players := room.players ++ [player] }

/-- Deals the game to the seated players. -/
def start (room : Room) (chance : Deal) : Except RoomError Room :=
  if ¬room.state.MayBecome .playing then .error (.invalidState room.id room.state)
  else
    match Game.deal room.players room.config.handSize chance with
    | .ok game => .ok { room with stage := .playing game }
    | .error error => .error (.game error)

/-- Closes a game that is over, and says whether it was still open. -/
def conclude (room : Room) : Bool × Room :=
  match room.stage with
  | .playing game =>
    if game.isFinished then (true, { room with stage := .finished game }) else (false, room)
  | _ => (false, room)

/-- The stage after a player has left; a game that is on loses the player. -/
def stageWithout (room : Room) (player : PlayerId) : Except RoomError Stage :=
  match room.stage with
  | .playing game =>
    match game.remove player with
    | .ok rest => .ok (.playing rest)
    | .error error => .error (.game error)
  | stage => .ok stage

/-- Takes a player out of the room. -/
def leave (room : Room) (player : PlayerId) : Except RoomError (Departure × Room) :=
  if player ∉ room.players then .error (.notInRoom player room.id)
  else
    match room.stageWithout player with
    | .error error => .error error
    | .ok stage =>
      let rest := { room with players := room.players.erase player, stage }
      if rest.players = [] then
        match stage with
        | .playing game => .ok (.emptied, { rest with stage := .finished game })
        | _ => .ok (.emptied, rest)
      else
        match rest.conclude with
        | (true, closed) => .ok (.endedGame, closed)
        | (false, unchanged) => .ok (.stayed, unchanged)

def summary (room : Room) : RoomSummary where
  id := room.id
  state := room.state

/-- The room as its players see it. A player without a description is left out. -/
def view (room : Room) (describe : PlayerId → Option Occupant) : RoomView where
  id := room.id
  state := room.state
  occupants := room.players.filterMap describe

end Room

end CardTable
