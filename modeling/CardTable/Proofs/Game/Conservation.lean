import CardTable.Proofs.Game.Dealing
import Mathlib.Data.List.Perm.Subperm

/-!
# Conservation of cards

Cards move between the deck, the pile, the top and the hands, and nowhere else. An accepted move
rearranges the cards of its game, so a run of moves does, and a dealt game always holds exactly one
deck. A list of cards is one deck when it has the right length and no card twice: there is no room
for a card to be missing then.
-/

namespace CardTable

theorem isWholeDeck_iff_perm {cards : List Card} :
    IsWholeDeck cards ↔ cards.Perm standardDeck := by
  constructor
  · rintro ⟨length, nodup⟩
    have within : cards.Subperm standardDeck :=
      List.subperm_of_subset nodup fun card _ => mem_standardDeck card
    exact within.perm_of_length_le (Nat.le_of_eq length.symm)
  · intro perm
    exact ⟨perm.length_eq, perm.nodup_iff.2 nodup_standardDeck⟩

namespace Game

theorem allCards_perm (game : Game) :
    game.allCards.Perm (game.stock.cards ++ game.top :: game.seats.flatMap Seat.hand) := by
  unfold allCards Stock.cards
  exact ((List.reverse_perm _).append (List.reverse_perm _)).append_right _

/-! ## Moves -/

theorem Acts.allCards_perm {game next : Game} {player : PlayerId} (acts : game.Acts player next) :
    next.allCards.Perm game.allCards := by
  rcases acts with ⟨before, behind, seat, hand, _, _, seated, _, _, seats, _, cards⟩
  refine next.allCards_perm.trans (List.Perm.trans ?_ game.allCards_perm.symm)
  rw [seats, seated]
  refine List.perm_iff_count.2 fun card => ?_
  have moved := cards.count_eq card
  simp only [List.count_append, List.count_cons, List.flatMap_append, List.flatMap_cons]
    at moved ⊢
  omega

theorem Leaves.allCards_perm {game next : Game} {player : PlayerId}
    (leaves : game.Leaves player next) : next.allCards.Perm game.allCards := by
  rcases leaves with ⟨before, behind, seat, seated, _, seats, _, cards⟩
  refine next.allCards_perm.trans (List.Perm.trans ?_ game.allCards_perm.symm)
  rw [seats, seated]
  refine List.perm_iff_count.2 fun card => ?_
  have moved := cards.count_eq card
  simp only [List.count_append, List.count_cons, List.count_nil, List.flatMap_append,
    List.flatMap_cons] at moved ⊢
  omega

theorem allCards_attempt_perm {game next : Game} {move : Move}
    (accepted : game.attempt move = .ok next) : next.allCards.Perm game.allCards := by
  rcases acts_or_leaves accepted with ⟨-, acts⟩ | ⟨-, leaves⟩
  · exact acts.allCards_perm
  · exact leaves.allCards_perm

theorem allCards_run_perm (game : Game) (moves : List Move) :
    (game.run moves).allCards.Perm game.allCards :=
  run_induction (motive := fun later => later.allCards.Perm game.allCards) (List.Perm.refl _)
    (fun kept accepted => (allCards_attempt_perm accepted).trans kept) moves

/-! ## Dealing -/

theorem allCards_deal_perm {players : List PlayerId} {wanted : Nat} {chance : Deal} {game : Game}
    (dealt : Game.deal players wanted chance = .ok game) : game.allCards.Perm standardDeck := by
  rcases deal_eq_ok dealt with ⟨top, next, rfl⟩
  rcases List.getElem?_eq_some_iff.1 next with ⟨within, rfl⟩
  have perm := dealRounds_perm (handSize players.length wanted)
    (players.map fun player => { player, hand := [] }) chance.cards
  have empty : (players.map fun player => ({ player, hand := [] } : Seat)).flatMap Seat.hand =
      [] := by
    simp [List.flatMap_eq_nil_iff]
  rw [dealRounds_map, empty, List.drop_eq_getElem_cons within] at perm
  refine (allCards_perm _).trans (List.Perm.trans ?_ (perm.trans chance.cards_perm))
  refine List.perm_iff_count.2 fun card => ?_
  simp only [dealtGame, Stock.cards, List.append_nil, List.count_append, List.count_cons]
  omega

/-! ## The law -/

theorem hands_disjoint {game : Game} (nodup : game.allCards.Nodup) :
    game.seats.Pairwise fun seat other => seat.hand.Disjoint other.hand := by
  have hands : (game.seats.flatMap Seat.hand).Nodup :=
    (List.nodup_append.1 (game.allCards_perm.nodup_iff.1 nodup)).2.1.of_cons
  exact (List.nodup_flatMap.1 hands).2

/--
Cards are conserved. Whatever is tried in a dealt game, and however the deck and the recycled piles
are shuffled, its cards are one whole deck: each card is in one place, and no card is in two hands.
The cards of a game that was set up stay what they were.
-/
theorem cards_conserved :
    (∀ cards : List Card, IsWholeDeck cards ↔ cards.Perm standardDeck) ∧
    (∀ players wanted chance game, Game.deal players wanted chance = .ok game →
      ∀ moves, (game.run moves).allCards.Perm standardDeck ∧
        IsWholeDeck (game.run moves).allCards ∧
        (∀ card, (game.run moves).allCards.count card = 1) ∧
        (game.run moves).seats.Pairwise fun seat other => seat.hand.Disjoint other.hand) ∧
    (∀ seats top deck recycles moves,
      ((ofPosition seats top deck recycles).run moves).allCards.Perm
        (ofPosition seats top deck recycles).allCards) := by
  refine ⟨fun cards => isWholeDeck_iff_perm, ?_, ?_⟩
  · intro players wanted chance game dealt moves
    have perm : (game.run moves).allCards.Perm standardDeck :=
      (allCards_run_perm game moves).trans (allCards_deal_perm dealt)
    have whole := isWholeDeck_iff_perm.2 perm
    refine ⟨perm, whole, fun card => ?_, hands_disjoint whole.2⟩
    rw [perm.count_eq]
    exact List.count_eq_one_of_mem nodup_standardDeck (mem_standardDeck card)
  · intro seats top deck recycles moves
    exact allCards_run_perm _ moves

theorem cards_conserved_of_leaver :
    ∃ game, Game.deal [1, 2, 3] 4 default = .ok game ∧
      (game.run [.draw 1, .draw 1, .remove 3, .pass 2]).allCards.Perm standardDeck :=
  ⟨_, rfl, (cards_conserved.2.1 [1, 2, 3] 4 default _ rfl _).1⟩

end Game

end CardTable
