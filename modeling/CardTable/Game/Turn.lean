import CardTable.Game.Basic

/-!
# Whose turn it is

The turn goes round the ring and skips the seats that hold no cards. `Game.order` reads the ring
from the seat on turn as a queue of players; the turn itself is kept as a place in the list of
seats.
-/

namespace CardTable

namespace Game

/-- Whether the seat at a place still holds cards. -/
def holdsAt (seats : List Seat) (place : Nat) : Bool :=
  seats[place]?.any fun seat => seat.InPlay

/-- The places after the given one, once round the ring and back to it. -/
def placesAfter (seats : List Seat) (place : Nat) : List Nat :=
  (List.range seats.length).map fun step => (place + 1 + step) % seats.length

/-- The next place whose seat holds cards. With at most one such seat the turn stays where it
is. -/
def nextPlace (seats : List Seat) (place : Nat) : Nat :=
  if (inPlay seats).length ≤ 1 then place
  else ((placesAfter seats place).find? (holdsAt seats)).getD place

/-- The game after the seat at `turn` has acted: the next one is on turn, or the game is over. -/
def advance (seats : List Seat) (turn : Nat) (pending : Option Effect) : Phase :=
  if (inPlay seats).length ≤ 1 then .finished
  else .active (nextPlace seats turn) pending

/-- The game with the seat at `turn` to act; if that seat holds no cards, the next one is. -/
def settle (seats : List Seat) (turn : Nat) (pending : Option Effect) : Phase :=
  if (inPlay seats).length ≤ 1 then .finished
  else if holdsAt seats turn then .active turn pending
  else .active (nextPlace seats turn) pending

/-- The player who would be on turn after the given one. -/
def nextPlayer? (game : Game) (player : PlayerId) : Option PlayerId := do
  let place ← seatOf? game.seats player
  let seat ← game.seats[nextPlace game.seats place]?
  return seat.player

/-- The seats in seating order, read round the ring from the given place. -/
def ringFrom (seats : List Seat) (place : Nat) : List Seat :=
  seats.drop place ++ seats.take place

/-- The players who hold cards in the order in which their turns come, the one on turn first. -/
def order (game : Game) : List PlayerId :=
  match game.phase with
  | .active turn _ => (inPlay (ringFrom game.seats turn)).map Seat.player
  | .finished => []

end Game

end CardTable
