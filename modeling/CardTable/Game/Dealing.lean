import CardTable.Game.Turn

/-!
# Dealing

A game starts from a shuffled deck: the hands are dealt card by card around the table, the next
card is turned up, and the rest is the deck. A game can also be set up from a given position.
-/

namespace CardTable

namespace Game

/-- How many cards each of `count` players can get so that a top card and a card in the deck
remain. -/
def largestHand (count : Nat) : Nat :=
  (standardDeck.length - 2) / count

/-- The size of the hands that are dealt when `wanted` cards are asked for. -/
def handSize (count wanted : Nat) : Nat :=
  max 1 (min wanted (largestHand count))

/-- Gives each seat one card from the head of the deck, in seating order. -/
def dealRound : List Seat → List Card → List Seat × List Card
  | seat :: seats, card :: deck =>
    let dealt := dealRound seats deck
    ({ seat with hand := seat.hand ++ [card] } :: dealt.1, dealt.2)
  | seats, deck => (seats, deck)

def dealRounds : Nat → List Seat → List Card → List Seat × List Card
  | 0, seats, deck => (seats, deck)
  | rounds + 1, seats, deck =>
    let dealt := dealRound seats deck
    dealRounds rounds dealt.1 dealt.2

/--
Deals a game. It takes two players, and no more than can be given one card each. The first card
turned up has no effect, and the first seat is on turn.
-/
def deal (players : List PlayerId) (wanted : Nat) (chance : Deal) : Except GameError Game :=
  let count := players.length
  if count < 2 then .error (.notEnoughPlayers count)
  else if largestHand count = 0 then .error (.tooManyPlayers count)
  else
    let empty := players.map fun player => { player, hand := [] : Seat }
    match dealRounds (handSize count wanted) empty chance.cards with
    | (seats, top :: deck) =>
      .ok {
        seats, top
        stock := { deck, pile := [], recycles := chance.recycles }
        phase := .active 0 none
        leaderboard := [] }
    | (_, []) => .error (.tooManyPlayers count)

/-- A game set up from hands in seating order, the top card and the deck, whose head is drawn
first. The first seat that holds cards is on turn. -/
def ofPosition (seats : List Seat) (top : Card) (deck : List Card)
    (recycles : List Shuffle) : Game where
  seats := seats
  top := top
  stock := { deck, pile := [], recycles }
  phase := settle seats 0 none
  leaderboard := []

end Game

end CardTable
