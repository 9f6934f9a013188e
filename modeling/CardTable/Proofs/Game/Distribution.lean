import CardTable.Proofs.Game.Dealing
import CardTable.Proofs.Game.InPlace

/-!
# Where the cards go

A deal sends every card of the shuffled deck to a known place: around the table into the hands, then
the top, then the deck that is left. The file also follows a deal step by step through what it uses
up of chance. A deal that is refused uses up nothing, because the refusal that comes after the
shuffle never happens.
-/

namespace CardTable

namespace Game

variable {players : List PlayerId} {wanted : Nat} {chance : Deal} {game : Game}

/-! ## Where the cards are -/

/-- The game is dealt card by card around the table from a shuffled deck, whose last card goes out
first. Everybody holds `size` cards, the next one lies open, and the others wait in their order. -/
structure DealtFrom (game : Game) (shuffled : List Card) (players : List PlayerId) (size : Nat) :
    Prop where
  seated : game.players = players
  even : ∀ seat ∈ game.seats, seat.hand.length = size
  /-- The places count from the end of the shuffled deck. -/
  hands : ∀ place seat, game.seats[place]? = some seat → ∀ round < size,
    seat.hand[round]? = shuffled.reverse[round * players.length + place]?
  top : shuffled.reverse[size * players.length]? = some game.top
  deck : game.stock.deck.reverse = shuffled.take (31 - players.length * size)
  left : game.stock.deck.length = 31 - players.length * size
  /-- At least one card is left to be drawn. -/
  some_left : 1 ≤ 31 - players.length * size
  pile : game.stock.pile = []
  unranked : game.leaderboard = []
  phase : game.phase = .active 0 none
  onTurn : game.currentPlayer? = players.head?
  holds : holdsAt game.seats 0

theorem dealtFrom_of_deal (dealt : Game.deal players wanted chance = .ok game) :
    game.DealtFrom (chance.deck.rearrange standardDeck) players
      (handSize players.length wanted) := by
  rcases length_of_deal dealt with ⟨two, few⟩
  have sizes := handSize_mul_le wanted (largestHand_ne_zero (by omega) few)
  have swapped := Nat.mul_comm (handSize players.length wanted) players.length
  have even := length_hand_of_deal dealt
  rcases ready_of_deal dealt with ⟨seated, ready⟩
  rcases deal_eq_ok dealt with ⟨top, next, rfl⟩
  have onTurn := (ready 0 none rfl).1
  have length : (chance.deck.rearrange standardDeck).length = 32 := by simp
  refine {
    seated, even, pile := rfl, unranked := rfl, phase := rfl, holds := onTurn, hands := ?_,
    top := next, deck := ?_, left := ?_, some_left := by omega, onTurn := ?_ }
  · intro place seat sits round inside
    rcases hand_of_dealtSeats sits with ⟨within, hand⟩
    rw [hand, getElem?_share within (by rw [Deal.length_cards]; omega) inside]
    rfl
  · simp only [dealtGame, Deal.cards, List.drop_reverse, List.reverse_reverse, length]
    congr 1
    omega
  · simp only [dealtGame, List.length_drop, Deal.length_cards]
    omega
  · rw [List.head?_eq_getElem?]
    exact List.getElem?_map.symm.trans (congrArg (·[0]?) seated)

/-! ## Using up chance -/

/-- Something that uses up chance, and may be refused on the way. -/
abbrev WithChance := EStateM GameError (List Deal)

/-- The chance of the next game, which is used up. -/
def nextDeal : WithChance Deal := do
  let deals ← get
  set deals.tail
  return deals.headD default

/-- Deals a game step by step. The players are counted before a deck is shuffled, but whether there
is a card to turn up is seen only after the hands are dealt. -/
def dealNext (players : List PlayerId) (wanted : Nat) : WithChance Game := do
  let count := players.length
  if count < 2 then throw (.notEnoughPlayers count)
  if largestHand count = 0 then throw (.tooManyPlayers count)
  let chance ← nextDeal
  let size := handSize count wanted
  match dealRounds size (players.map fun player => { player, hand := [] }) chance.cards with
  | (_, []) => throw (.tooManyPlayers count)
  | (seats, top :: deck) =>
    return {
      seats, top
      stock := { deck, pile := [], recycles := chance.recycles }
      phase := .active 0 none
      leaderboard := [] }

/-- Chance is used up when a game is dealt, and only then. -/
theorem dealNext_eq (players : List PlayerId) (wanted : Nat) (deals : List Deal) :
    dealNext players wanted deals =
      match Game.deal players wanted (deals.headD default) with
      | .ok game => .ok game deals.tail
      | .error error => .error error deals := by
  by_cases few : players.length < 2
  · rw [deal_of_few few, dealNext]
    simp only [if_pos few]
    rfl
  · by_cases many : 30 < players.length
    · rw [deal_of_many many, dealNext]
      simp only [if_neg few, if_pos (largestHand_eq_zero many)]
      rfl
    · -- a card is left behind the hands, so the last refusal is out of reach
      have fits : largestHand players.length ≠ 0 := largestHand_ne_zero (by omega) (by omega)
      rcases deal_of_fits (Nat.le_of_not_lt few) (Nat.le_of_not_lt many) wanted
        (deals.headD default) with ⟨top, next, dealt⟩
      rcases List.getElem?_eq_some_iff.1 next with ⟨within, rfl⟩
      have taken : nextDeal deals = .ok (deals.headD default) deals.tail := rfl
      rw [dealt, dealNext]
      simp only [if_neg few, if_neg fits, dealRounds_map]
      refine (bind_of_ok taken).trans ?_
      rw [List.drop_eq_getElem_cons within]
      rfl

/-! ## The law -/

/-- A deal is refused for fewer than two or more than thirty players, whatever else is asked for,
and uses up no chance then. Any other deal gives everybody as many cards as were asked for, or as
near to that as one deck allows, and each card goes to the place that follows from its place in the
shuffled deck. -/
theorem deals_exact (players : List PlayerId) (wanted : Nat) :
    (∀ chance error, Game.deal players wanted chance = .error error ↔
      players.length < 2 ∧ error = .notEnoughPlayers players.length ∨
      30 < players.length ∧ error = .tooManyPlayers players.length) ∧
    (∀ deals, dealNext players wanted deals =
      match Game.deal players wanted (deals.headD default) with
      | .ok game => .ok game deals.tail
      | .error error => .error error deals) ∧
    (2 ≤ players.length → players.length ≤ 30 → ∀ chance, ∃ game,
      Game.deal players wanted chance = .ok game ∧
      game.DealtFrom (chance.deck.rearrange standardDeck) players
        (max 1 (min wanted (30 / players.length)))) := by
  refine ⟨fun chance error => ?_, dealNext_eq players wanted, fun two few chance => ?_⟩
  · constructor
    · intro refused
      by_cases few : players.length < 2
      · rw [deal_of_few few] at refused
        cases refused
        exact .inl ⟨few, rfl⟩
      · by_cases many : 30 < players.length
        · rw [deal_of_many many] at refused
          cases refused
          exact .inr ⟨many, rfl⟩
        · rcases exists_deal (Nat.le_of_not_lt few) (Nat.le_of_not_lt many) wanted chance with
            ⟨game, dealt, -⟩
          cases refused.symm.trans dealt
    · rintro (⟨few, rfl⟩ | ⟨many, rfl⟩)
      · exact deal_of_few few wanted chance
      · exact deal_of_many many wanted chance
  · rcases exists_deal two few wanted chance with ⟨game, dealt, -⟩
    exact ⟨game, dealt, dealtFrom_of_deal dealt⟩

/-- Seven players who ask for more than there is get four cards each. -/
theorem deals_exact_of_seven :
    2 ≤ [1, 2, 3, 4, 5, 6, 7].length ∧ [1, 2, 3, 4, 5, 6, 7].length ≤ 30 ∧
      ∃ game, Game.deal [1, 2, 3, 4, 5, 6, 7] 18446744073709551615
          { deck := .ofPlaces (List.range 32).reverse, recycles := [] } = .ok game ∧
        game.DealtFrom ((Shuffle.ofPlaces (List.range 32).reverse).rearrange standardDeck)
          [1, 2, 3, 4, 5, 6, 7] 4 :=
  ⟨by decide, by decide,
    (deals_exact [1, 2, 3, 4, 5, 6, 7] 18446744073709551615).2.2 (by decide) (by decide) _⟩

end Game

end CardTable
