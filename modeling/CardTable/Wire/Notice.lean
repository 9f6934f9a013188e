import CardTable.Numbers
import CardTable.Room.State
import CardTable.Wire.Basic

/-!
# Notices

What the server says. A notice is written as words, the words between the opening word and a bar,
and a line end behind it. Lists are written behind their length.
-/

namespace CardTable

/-- The request that an `OK` or a `FAIL` answers. -/
inductive Command
  | name
  | joinRoom
  | createRoom
  | leaveRoom
  | play
  deriving DecidableEq, Repr

/-- The verb of the request that is answered. -/
def Command.verb : Command → Verb
  | name => .name
  | joinRoom => .joinRoom
  | createRoom => .createRoom
  | leaveRoom => .leaveRoom
  | play => .play

/-- A room in a list of rooms. -/
structure RoomSummary where
  id : RoomId
  state : RoomState
  deriving DecidableEq, Repr

/-- A seated player as the others see the player. -/
structure Occupant where
  nickname : String
  awake : Bool
  deriving DecidableEq, Repr

/-- A room as its players see it, the occupants in seating order. -/
structure RoomView where
  id : RoomId
  state : RoomState
  occupants : List Occupant
  deriving DecidableEq, Repr

/-- Whose turn it is, and the card to play on. -/
structure TurnView where
  nickname : String
  top : Card
  deriving DecidableEq, Repr

/-- Where a client stands, with everything the client may see there. -/
inductive Snapshot
  | unnamed
  | lobby
  | room (room : RoomView)
  /-- A game that is on or over; when it is over it is nobody's turn. -/
  | game (room : RoomView) (hand : List Card) (turn : Option TurnView)
  deriving DecidableEq, Repr

/-- Something the server says to one client. -/
inductive Notice
  | ping
  | ok (command : Command)
  | fail (command : Command)
  | rooms (rooms : List RoomSummary)
  | room (room : RoomView)
  | join (nickname : String)
  | leave (nickname : String)
  | gameStart
  | hand (cards : List Card)
  | turn (turn : TurnView)
  | played (nickname : String) (card : Card)
  | skip (nickname : String)
  | drew (nickname : String) (count : Nat)
  | cards (cards : List Card)
  | win
  | lose
  | leaderboard (nicknames : List String)
  | sleep (nickname : String)
  | awake (nickname : String)
  | dead (nickname : String)
  | state (snapshot : Snapshot)
  deriving DecidableEq, Repr

namespace Notice

def numberWord (number : Nat) : String := toString number

def cardsWords (cards : List Card) : List String :=
  numberWord cards.length :: cards.map Card.text

def roomWords (view : RoomView) : List String :=
  ["ROOM", numberWord view.id, view.state.text, "PLAYERS", numberWord view.occupants.length] ++
    view.occupants.flatMap fun occupant =>
      [occupant.nickname, if occupant.awake then "awake" else "sleep"]

def turnWords (view : TurnView) : List String :=
  ["TURN", view.nickname, "TOP", view.top.text]

def snapshotWords : Snapshot → List String
  | .unnamed => ["UNNAMED"]
  | .lobby => ["LOBBY"]
  | .room view => "ROOM" :: roomWords view
  | .game view held next =>
    "GAME" :: roomWords view ++ "HAND" :: cardsWords held ++ (next.map turnWords).getD []

def words : Notice → List String
  | .ping => ["PING"]
  | .ok command => ["OK", command.verb.text]
  | .fail command => ["FAIL", command.verb.text]
  | .rooms summaries =>
    "ROOMS" :: numberWord summaries.length ::
      summaries.flatMap fun summary => [numberWord summary.id, summary.state.text]
  | .room view => roomWords view
  | .join nickname => ["JOIN", nickname]
  | .leave nickname => ["LEAVE", nickname]
  | .gameStart => ["GAME_START"]
  | .hand dealt => "HAND" :: cardsWords dealt
  | .turn view => turnWords view
  | .played nickname card => ["PLAYED", nickname, card.text]
  | .skip nickname => ["SKIP", nickname]
  | .drew nickname count => ["DRAWED", nickname, numberWord count]
  | .cards drawn => "CARDS" :: cardsWords drawn
  | .win => ["WIN"]
  | .lose => ["LOSE"]
  | .leaderboard nicknames => "LEADERBOARD" :: numberWord nicknames.length :: nicknames
  | .sleep nickname => ["SLEEP", nickname]
  | .awake nickname => ["AWAKE", nickname]
  | .dead nickname => ["DEAD", nickname]
  | .state snapshot => "STATE" :: snapshotWords snapshot

/-- The written line, its line end included. -/
def line (notice : Notice) : String :=
  Wire.magic ++ String.join (notice.words.map (" " ++ ·)) ++ " |\n"

def bytes (notice : Notice) : Bytes :=
  Wire.bytesOf notice.line

end Notice

end CardTable
