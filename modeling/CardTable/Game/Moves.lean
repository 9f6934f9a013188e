import CardTable.Game.Dealing

/-!
# Moves

What a player can do: play a card, draw one, give in to what is pending, or leave. A refused move
answers with its reason and leaves the game as it was.
-/

namespace CardTable

/-- What a play brought about. -/
structure Played where
  emptiedHand : Bool
  finished : Bool
  deriving DecidableEq, Repr

/-- How a player gave in. -/
inductive Passed
  | skipped
  | drew (cards : List Card)
  deriving DecidableEq, Repr

namespace Game

/-- The turn of a player who may act: the place of the seat and what it has to answer. -/
structure Turn where
  place : Nat
  pending : Option Effect

/-- The player's turn, if it is the player's turn. -/
def turnOf (game : Game) (player : PlayerId) : Except GameError Turn :=
  match game.phase with
  | .finished => .error .finished
  | .active turn pending =>
    match seatOf? game.seats player with
    | none => .error (.notSeated player)
    | some place =>
      if place = turn then .ok { place, pending } else .error (.notYourTurn player)

def handAt (seats : List Seat) (place : Nat) : List Card :=
  (seats[place]?.map Seat.hand).getD []

def changeHand (seats : List Seat) (place : Nat) (change : List Card → List Card) : List Seat :=
  seats.modify place fun seat => { seat with hand := change seat.hand }

def play (game : Game) (player : PlayerId) (card : Card) : Except GameError (Played × Game) := do
  let turn ← game.turnOf player
  let hand := handAt game.seats turn.place
  if card ∉ hand then
    throw (.cardNotInHand card)
  if ¬MayPlay turn.pending game.top card then
    throw (.illegalCard card game.top)
  let seats := changeHand game.seats turn.place (·.erase card)
  let emptied := hand.erase card = []
  let next := { game with
    seats
    top := card
    stock := game.stock.discard game.top
    phase := advance seats turn.place (effectOf card turn.pending)
    leaderboard := if emptied then game.leaderboard ++ [player] else game.leaderboard }
  return ({ emptiedHand := emptied, finished := next.isFinished }, next)

/-- Gives the seat on turn up to `count` cards from the stock and ends its turn. -/
def drawFor (game : Game) (place count : Nat) : List Card × Game :=
  let drawn := game.stock.draw count
  let seats := changeHand game.seats place (· ++ drawn.1)
  (drawn.1, { game with seats, stock := drawn.2, phase := advance seats place none })

/-- Draws a card instead of playing one; refused while an effect is pending. -/
def drawCard (game : Game) (player : PlayerId) : Except GameError (List Card × Game) := do
  let turn ← game.turnOf player
  match turn.pending with
  | some _ => throw .penaltyPending
  | none => return game.drawFor turn.place 1

/-- Gives in to what is pending: misses the turn, or draws the cards that are due. -/
def pass (game : Game) (player : PlayerId) : Except GameError (Passed × Game) := do
  let turn ← game.turnOf player
  match turn.pending with
  | none => throw .nothingToPass
  | some .skip => return (.skipped, { game with phase := advance game.seats turn.place none })
  | some (.draw count) =>
    let drawn := game.drawFor turn.place count
    return (.drew drawn.1, drawn.2)

/-- The place that is on turn once the seat at `left` is gone: the seats behind it close up, and if
it was on turn itself, the seat that follows it is. -/
def turnWithout (left turn count : Nat) : Nat :=
  if left < turn then turn - 1 else if left = turn then left % count else turn

/-- Takes a player out of the game. The hand goes under the deck; what is pending stays, for
whoever is on turn then. -/
def remove (game : Game) (player : PlayerId) : Except GameError Game :=
  match seatOf? game.seats player with
  | none => .error (.notSeated player)
  | some left =>
    let seats := game.seats.eraseIdx left
    .ok { game with
      seats
      stock := game.stock.putUnder (handAt game.seats left)
      phase := match game.phase with
        | .finished => .finished
        | .active turn pending => settle seats (turnWithout left turn seats.length) pending }

end Game

end CardTable
