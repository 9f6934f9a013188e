import CardTable.Directory
import CardTable.Room.Basic

/-!
# The lobby

All rooms, by their numbers. A new room gets the smallest number that no room has, and there is a
limit to how many rooms there are. The lobby also holds the chance of the games to come: the first
deal belongs to the next game that is dealt, in whichever room.
-/

namespace CardTable

/-- All rooms, and the deals of the games to come. -/
structure Lobby where
  limit : Nat
  config : RoomConfig
  rooms : Directory RoomId Room
  deals : List Deal

namespace Lobby

def vacant (limit : Nat) (config : RoomConfig) (deals : List Deal) : Lobby where
  limit := limit
  config := config
  rooms := .empty
  deals := deals

/-- The first number from `candidate` on that does not come next in an increasing list. -/
def firstGap : Nat → List Nat → Nat
  | candidate, [] => candidate
  | candidate, number :: rest =>
    if number = candidate then firstGap (candidate + 1) rest else candidate

/-- The smallest number that no room has. -/
def freeId (lobby : Lobby) : RoomId :=
  firstGap 0 lobby.rooms.keys

def room? (lobby : Lobby) (id : RoomId) : Option Room :=
  lobby.rooms.get? id

/-- Opens a new room, and says which. -/
def create (lobby : Lobby) : Except RoomError (RoomId × Lobby) :=
  if lobby.limit ≤ lobby.rooms.size then .error (.lobbyFull lobby.limit)
  else
    let id := lobby.freeId
    .ok (id, { lobby with rooms := lobby.rooms.insert id (.vacant id lobby.config) })

def remove (lobby : Lobby) (id : RoomId) : Lobby :=
  { lobby with rooms := lobby.rooms.erase id }

def put (lobby : Lobby) (room : Room) : Lobby :=
  { lobby with rooms := lobby.rooms.modify room.id fun _ => room }

/-- The room of a number, or the reason why there is none. -/
def find (lobby : Lobby) (id : RoomId) : Except RoomError Room :=
  match lobby.room? id with
  | some room => .ok room
  | none => .error (.notFound id)

def join (lobby : Lobby) (id : RoomId) (player : PlayerId) : Except RoomError Lobby := do
  let room ← lobby.find id
  return lobby.put (← room.join player)

/-- Deals the game of a room with the next deal, which is used up only if the game is dealt. -/
def start (lobby : Lobby) (id : RoomId) : Except RoomError Lobby := do
  let room ← lobby.find id
  let started ← room.start (lobby.deals.headD default)
  return { lobby.put started with deals := lobby.deals.tail }

/-- Takes a player out of a room. The room stays, even if it is empty now. -/
def leave (lobby : Lobby) (id : RoomId) (player : PlayerId) :
    Except RoomError (Departure × Lobby) := do
  let room ← lobby.find id
  let (departure, rest) ← room.leave player
  return (departure, lobby.put rest)

/-- All rooms in the order of their numbers. -/
def summaries (lobby : Lobby) : List RoomSummary :=
  lobby.rooms.values.map Room.summary

end Lobby

end CardTable
