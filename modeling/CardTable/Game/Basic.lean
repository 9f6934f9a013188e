import CardTable.Game.Stock
import CardTable.Numbers

/-!
# Games

A game is a ring of seats around the top card and the stock. While it is on, one seat is on turn,
and an effect may be pending that this seat has to answer. It is over when at most one seat still
holds cards.
-/

namespace CardTable

/-- A player at the table and the cards in the player's hand. -/
structure Seat where
  player : PlayerId
  hand : List Card

/-- What a played card demands of the next player. -/
inductive Effect
  /-- Play an ace or miss the turn. -/
  | skip
  /-- Play a seven or draw so many cards. -/
  | draw (count : Nat)
  deriving DecidableEq, Repr

/-- Where a game stands. -/
inductive Phase
  /-- The seat at place `turn` is to act, and has to answer what is pending. -/
  | active (turn : Nat) (pending : Option Effect)
  | finished
  deriving DecidableEq, Repr

/-- A game in progress or just over. -/
structure Game where
  seats : List Seat
  /-- The card that every play is matched against. -/
  top : Card
  stock : Stock
  phase : Phase
  /-- The players who emptied their hands, in the order in which they did. -/
  leaderboard : List PlayerId

/-- Why a game cannot be dealt or an action is refused. -/
inductive GameError
  | notEnoughPlayers (count : Nat)
  | tooManyPlayers (count : Nat)
  | notSeated (player : PlayerId)
  | notYourTurn (player : PlayerId)
  | finished
  | cardNotInHand (card : Card)
  | illegalCard (card top : Card)
  | penaltyPending
  | nothingToPass
  deriving DecidableEq, Repr

def GameError.message : GameError → String
  | notEnoughPlayers count => s!"a game needs at least 2 players, got {count}"
  | tooManyPlayers count => s!"{count} players do not fit one deck"
  | notSeated player => s!"player {playerLabel player} is not seated"
  | notYourTurn player => s!"it is not {playerLabel player}'s turn"
  | finished => "the game is finished"
  | cardNotInHand card => s!"{card.text} is not in hand"
  | illegalCard card top => s!"{card.text} cannot be played on {top.text}"
  | penaltyPending => "a pending effect must be answered or passed"
  | nothingToPass => "nothing to pass"

namespace Seat

/-- A seat is in play while it holds cards. -/
def InPlay (seat : Seat) : Prop :=
  seat.hand ≠ []

instance (seat : Seat) : Decidable seat.InPlay :=
  inferInstanceAs (Decidable (_ ≠ _))

end Seat

namespace Game

/-- The place of a player's seat; a player seated twice is found in the first seat. -/
def seatOf? (seats : List Seat) (player : PlayerId) : Option Nat :=
  seats.findIdx? fun seat => seat.player = player

def hand? (game : Game) (player : PlayerId) : Option (List Card) :=
  (game.seats.find? fun seat => seat.player = player).map Seat.hand

def players (game : Game) : List PlayerId :=
  game.seats.map Seat.player

def inPlay (seats : List Seat) : List Seat :=
  seats.filter fun seat => seat.InPlay

def stillPlaying (game : Game) : Nat :=
  (inPlay game.seats).length

def isFinished (game : Game) : Bool :=
  game.phase = .finished

/-- The effect that the player on turn has to answer. -/
def pending (game : Game) : Option Effect :=
  match game.phase with
  | .active _ pending => pending
  | .finished => none

/-- The player on turn; nobody once the game is over. -/
def currentPlayer? (game : Game) : Option PlayerId :=
  match game.phase with
  | .active turn _ => game.seats[turn]?.map Seat.player
  | .finished => none

/-- The ranking: who emptied a hand first comes first, then whoever still holds cards in seating
order. -/
def standings (game : Game) : List PlayerId :=
  game.leaderboard ++ (inPlay game.seats).map Seat.player

/-- Every card of the game: the deck from its bottom up, the pile from its oldest card, the top
card, and the hands in seating order. -/
def allCards (game : Game) : List Card :=
  game.stock.deck.reverse ++ game.stock.pile.reverse ++ game.top :: game.seats.flatMap Seat.hand

/-- Whether a card may be played: a pending ace is answered by an ace and a pending seven by a
seven; otherwise an ober goes on anything, and any card on one that it matches. -/
def MayPlay (pending : Option Effect) (top card : Card) : Prop :=
  match pending with
  | some .skip => card.rank = .ace
  | some (.draw _) => card.rank = .seven
  | none => card.rank = .ober ∨ card.Matches top

instance (pending : Option Effect) (top card : Card) : Decidable (MayPlay pending top card) := by
  unfold MayPlay
  split <;> infer_instance

/-- What is pending after a card: an ace threatens a skip, a seven adds two to the cards that are
already due, and any other card threatens nothing. -/
def effectOf (card : Card) (pending : Option Effect) : Option Effect :=
  match card.rank, pending with
  | .ace, _ => some .skip
  | .seven, some (.draw count) => some (.draw (count + 2))
  | .seven, _ => some (.draw 2)
  | _, _ => none

end Game

end CardTable
