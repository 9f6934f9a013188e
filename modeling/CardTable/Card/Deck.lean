import CardTable.Card

/-!
# Decks

The deck the game is played with, and the two things the table asks of a list of cards: whether it
is one whole deck, and one copy of a card less.
-/

namespace CardTable

/-- The deck in its sorted order: suit by suit, each from the lowest rank up. -/
def standardDeck : List Card :=
  Suit.all.flatMap fun suit => Rank.all.map fun rank => ⟨suit, rank⟩

@[simp]
theorem length_standardDeck : standardDeck.length = 32 := rfl

theorem mem_standardDeck (card : Card) : card ∈ standardDeck := by
  obtain ⟨suit, rank⟩ := card
  cases suit <;> cases rank <;> decide

theorem nodup_standardDeck : standardDeck.Nodup := by decide

/-- A list of cards is a whole deck when it has the deck's length and repeats no card. -/
def IsWholeDeck (cards : List Card) : Prop :=
  cards.length = standardDeck.length ∧ cards.Nodup

instance (cards : List Card) : Decidable (IsWholeDeck cards) :=
  inferInstanceAs (Decidable (_ ∧ _))

/-- The cards without the first copy of one of them; nothing if there is no copy. -/
def takeCard? (card : Card) (cards : List Card) : Option (List Card) :=
  if card ∈ cards then some (cards.erase card) else none

end CardTable
