import CardTable.Card.Shuffle

/-!
# The stock

The cards that nobody holds and nobody sees: the deck to draw from and the pile of played cards
under the top one. When the deck runs dry the pile is shuffled and becomes the deck, so drawing
stops only when both are used up.
-/

namespace CardTable

/-- The cards to draw from and those waiting to be drawn again. -/
structure Stock where
  /-- The face-down cards, the next one to be drawn at the head. -/
  deck : List Card
  /-- The played cards below the top one, the newest at the head. -/
  pile : List Card
  /-- The shuffles still to come, one for each time the pile is turned over. -/
  recycles : List Shuffle

namespace Stock

def cards (stock : Stock) : List Card :=
  stock.deck ++ stock.pile

/-- The pile turned over and shuffled. Shuffling rearranges the pile from the oldest card to the
newest, and the last card of the result is drawn first. -/
def turnOver (stock : Stock) : Stock where
  deck := ((stock.recycles.headD .keep).rearrange stock.pile.reverse).reverse
  pile := []
  recycles := stock.recycles.tail

/-- The stock ready to be drawn from: an empty deck is renewed from the pile, if there is one. -/
def replenish (stock : Stock) : Stock :=
  if stock.deck = [] ∧ stock.pile ≠ [] then stock.turnOver else stock

/-- Draws up to `count` cards, in the order drawn, and says what is left. -/
def draw : Nat → Stock → List Card × Stock
  | 0, stock => ([], stock)
  | count + 1, stock =>
    match stock.replenish.deck with
    | [] => ([], stock)
    | card :: rest =>
      let drawn := draw count { stock.replenish with deck := rest }
      (card :: drawn.1, drawn.2)

def discard (stock : Stock) (card : Card) : Stock :=
  { stock with pile := card :: stock.pile }

/-- Puts a returned hand under the deck, its first card lowest. -/
def putUnder (stock : Stock) (hand : List Card) : Stock :=
  { stock with deck := stock.deck ++ hand.reverse }

theorem cards_turnOver_perm (stock : Stock) :
    stock.turnOver.cards.Perm stock.pile := by
  simp only [cards, turnOver, List.append_nil]
  exact (List.reverse_perm _).trans
    (((stock.recycles.headD .keep).perm _).trans (List.reverse_perm _))

theorem cards_replenish_perm (stock : Stock) : stock.replenish.cards.Perm stock.cards := by
  unfold replenish
  split
  · next dry =>
    have whole : stock.cards = stock.pile := by simp [cards, dry.1]
    rw [whole]
    exact stock.cards_turnOver_perm
  · exact List.Perm.refl _

/-- Drawing moves cards out of the stock and neither makes nor loses one. -/
theorem draw_perm (count : Nat) (stock : Stock) :
    ((stock.draw count).1 ++ (stock.draw count).2.cards).Perm stock.cards := by
  induction count generalizing stock with
  | zero => simp [draw]
  | succ count ih =>
    unfold draw
    split
    · simp
    · next card rest ready =>
      have split : stock.replenish.cards = card :: (rest ++ stock.replenish.pile) := by
        simp [cards, ready]
      refine List.Perm.trans ?_ stock.cards_replenish_perm
      rw [split]
      exact (ih { stock.replenish with deck := rest }).cons card

end Stock

end CardTable
