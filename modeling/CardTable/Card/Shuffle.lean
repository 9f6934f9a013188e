import CardTable.Card.Deck

/-!
# Shuffles

A shuffle is any rearrangement of a list of cards. Chance enters the library only as a list of
shuffles that is handed to it, so every operation is a function of what it is given, and a law
about all shuffles is a law about all outcomes of chance.
-/

namespace CardTable

/-- A way to rearrange cards: it loses none and adds none. -/
structure Shuffle where
  /-- The cards in their new order. -/
  rearrange : List Card → List Card
  perm : ∀ cards, (rearrange cards).Perm cards

namespace Shuffle

/-- The shuffle that leaves every card where it is. -/
def keep : Shuffle where
  rearrange := id
  perm := List.Perm.refl

instance : Inhabited Shuffle := ⟨keep⟩

@[simp]
theorem length_rearrange (shuffle : Shuffle) (cards : List Card) :
    (shuffle.rearrange cards).length = cards.length :=
  (shuffle.perm cards).length_eq

@[simp]
theorem mem_rearrange {shuffle : Shuffle} {cards : List Card} {card : Card} :
    card ∈ shuffle.rearrange cards ↔ card ∈ cards :=
  (shuffle.perm cards).mem_iff

/-- The cards that stand at the given places. -/
def pick (places : List Nat) (cards : List Card) : List Card :=
  places.filterMap fun place => cards[place]?

theorem pick_range (cards : List Card) : pick (List.range cards.length) cards = cards := by
  induction cards with
  | nil => rfl
  | cons card rest ih =>
    rw [pick, List.length_cons, List.range_succ_eq_map, List.filterMap_cons_some (by rfl),
      List.filterMap_map]
    exact congrArg (card :: ·) ih

/--
The shuffle that puts in each place the card at the place named there. A list that does not name
every place of the cards exactly once shuffles nothing.
-/
def ofPlaces (places : List Nat) : Shuffle where
  rearrange cards :=
    if places.isPerm (List.range cards.length) then pick places cards else cards
  perm cards := by
    split
    · next named =>
      calc (pick places cards).Perm (pick (List.range cards.length) cards) :=
            (List.isPerm_iff.1 named).filterMap _
        _ = cards := pick_range cards
    · exact List.Perm.refl _

end Shuffle

/-- The chance in one game: the shuffle of the whole deck, then one for each time that the played
cards are turned over to be drawn again. -/
structure Deal where
  deck : Shuffle
  recycles : List Shuffle

namespace Deal

instance : Inhabited Deal := ⟨⟨default, []⟩⟩

/-- The shuffled deck, the card that is dealt first at its head. -/
def cards (deal : Deal) : List Card :=
  (deal.deck.rearrange standardDeck).reverse

theorem cards_perm (deal : Deal) : deal.cards.Perm standardDeck :=
  (List.reverse_perm _).trans (deal.deck.perm _)

@[simp]
theorem length_cards (deal : Deal) : deal.cards.length = 32 :=
  deal.cards_perm.length_eq

end Deal

end CardTable
