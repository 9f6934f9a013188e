import CardTable.Proofs.Game.Turn

/-!
# Dealt games

The deck is large enough for two to thirty players, whatever hand is asked for: every deal to so
many players succeeds, seats them in their order, and leaves nobody without cards. Where each card
of the shuffled deck ends up can be read off its place in the deck.
-/

namespace CardTable

namespace Game

/-! ## Rounds -/

/-- The cards that come to one place when so many rounds are dealt to `count` seats. -/
def share (count rounds place : Nat) (deck : List Card) : List Card :=
  (List.range rounds).filterMap fun round => deck[round * count + place]?

theorem getElem?_nextRound (deck : List Card) (count round place : Nat) :
    (deck.drop count)[round * count + place]? = deck[(round + 1) * count + place]? := by
  rw [List.getElem?_drop, Nat.add_mul, Nat.one_mul, Nat.add_right_comm, Nat.add_comm count]

theorem share_succ (count rounds place : Nat) (deck : List Card) :
    share count (rounds + 1) place deck =
      deck[place]?.toList ++ share count rounds place (deck.drop count) := by
  rw [share, share, List.range_succ_eq_map, List.filterMap_cons, List.filterMap_map]
  simp only [Nat.zero_mul, Nat.zero_add, Function.comp_def, Nat.succ_eq_add_one, getElem?_nextRound]
  cases deck[place]? <;> rfl

theorem mapIdx_hand (seats : List Seat) :
    (seats.mapIdx fun _ seat => { seat with hand := seat.hand }) = seats := by
  induction seats with
  | nil => rfl
  | cons seat seats ih => rw [List.mapIdx_cons, ih]

theorem dealRound_eq (seats : List Seat) (deck : List Card) :
    dealRound seats deck =
      (seats.mapIdx fun place seat => { seat with hand := seat.hand ++ deck[place]?.toList },
        deck.drop seats.length) := by
  fun_induction dealRound seats deck with
  | case1 seat seats card deck dealt ih => simp [dealt, ih, List.mapIdx_cons]
  | case2 seats deck short =>
    cases seats with
    | nil => simp
    | cons seat seats =>
      cases deck with
      | nil => simp [mapIdx_hand]
      | cons card deck => exact (short seat seats card deck rfl rfl).elim

/-- Each place gets its share, and the rest stays. This is so even when the deck runs short. -/
theorem dealRounds_eq (rounds : Nat) (seats : List Seat) (deck : List Card) :
    dealRounds rounds seats deck =
      (seats.mapIdx fun place seat =>
          { seat with hand := seat.hand ++ share seats.length rounds place deck },
        deck.drop (rounds * seats.length)) := by
  -- the later rounds deal to the same number of seats from what the first one leaves of the deck
  induction rounds generalizing seats deck with
  | zero => simp [dealRounds, share, mapIdx_hand]
  | succ rounds ih =>
    rw [dealRounds, ih, dealRound_eq]
    simp only [List.length_mapIdx, List.mapIdx_mapIdx, List.drop_drop, Function.comp_def,
      List.append_assoc, share_succ, Nat.add_mul, Nat.one_mul, Nat.add_comm]

section Shares

variable {count rounds place round : Nat} {deck : List Card}

/-- While the deck lasts, each round brings a card. -/
theorem share_cons (within : place < count) (enough : (rounds + 1) * count ≤ deck.length) :
    rounds * count ≤ (deck.drop count).length ∧ ∃ card, deck[place]? = some card ∧
      share count (rounds + 1) place deck = card :: share count rounds place (deck.drop count) := by
  rw [Nat.add_mul] at enough
  have first : place < deck.length := by omega
  refine ⟨?_, deck[place], List.getElem?_eq_getElem first, ?_⟩
  · rw [List.length_drop]
    omega
  · rw [share_succ, List.getElem?_eq_getElem first]
    rfl

theorem length_share (within : place < count) (enough : rounds * count ≤ deck.length) :
    (share count rounds place deck).length = rounds := by
  induction rounds generalizing deck with
  | zero => rfl
  | succ rounds ih =>
    rcases share_cons within enough with ⟨rest, card, -, dealt⟩
    rw [dealt, List.length_cons, ih rest]

theorem getElem?_share (within : place < count) (enough : rounds * count ≤ deck.length)
    (inside : round < rounds) :
    (share count rounds place deck)[round]? = deck[round * count + place]? := by
  induction rounds generalizing deck round with
  | zero => omega
  | succ rounds ih =>
    rcases share_cons within enough with ⟨rest, card, first, dealt⟩
    rw [dealt]
    cases round with
    | zero => simp [first]
    | succ round =>
      rw [List.getElem?_cons_succ, ih rest (Nat.lt_of_succ_lt_succ inside), getElem?_nextRound]

end Shares

theorem dealRound_perm (seats : List Seat) (deck : List Card) :
    ((dealRound seats deck).1.flatMap Seat.hand ++ (dealRound seats deck).2).Perm
      (seats.flatMap Seat.hand ++ deck) := by
  fun_induction dealRound seats deck with
  | case1 seat seats card deck dealt ih =>
    refine List.perm_iff_count.2 fun other => ?_
    have rest := ih.count_eq other
    simp only [List.count_append, List.count_cons, List.count_nil, List.flatMap_cons, dealt]
      at rest ⊢
    omega
  | case2 seats deck => exact List.Perm.refl _

theorem dealRounds_perm (rounds : Nat) (seats : List Seat) (deck : List Card) :
    ((dealRounds rounds seats deck).1.flatMap Seat.hand ++ (dealRounds rounds seats deck).2).Perm
      (seats.flatMap Seat.hand ++ deck) := by
  induction rounds generalizing seats deck with
  | zero => exact List.Perm.refl _
  | succ rounds ih => exact (ih _ _).trans (dealRound_perm seats deck)

/-! ## Sizes -/

theorem one_le_handSize (count wanted : Nat) : 1 ≤ handSize count wanted :=
  Nat.le_max_left 1 _

theorem handSize_le {count : Nat} (wanted : Nat) (fits : largestHand count ≠ 0) :
    handSize count wanted ≤ largestHand count := by
  unfold handSize
  omega

/-- A hand that fits is dealt as it is asked for. -/
theorem handSize_eq_iff {count wanted : Nat} (fits : largestHand count ≠ 0) :
    handSize count wanted = wanted ↔ 1 ≤ wanted ∧ wanted ≤ largestHand count := by
  unfold handSize
  omega

theorem handSize_mul_le {count : Nat} (wanted : Nat) (fits : largestHand count ≠ 0) :
    handSize count wanted * count ≤ 30 := by
  calc handSize count wanted * count
      _ ≤ largestHand count * count := Nat.mul_le_mul_right count (handSize_le wanted fits)
      _ ≤ 30 := Nat.div_mul_le_self _ _

theorem largestHand_ne_zero {count : Nat} (some_players : 0 < count) (few : count ≤ 30) :
    largestHand count ≠ 0 :=
  (Nat.div_pos few some_players).ne'

theorem largestHand_eq_zero {count : Nat} (many : 30 < count) : largestHand count = 0 :=
  Nat.div_eq_of_lt many

/-! ## Deals -/

section Deals

variable {players : List PlayerId} {wanted : Nat} {chance : Deal} {game : Game}

/-- The seats of the players with their shares of the deck. -/
def dealtSeats (players : List PlayerId) (size : Nat) (deck : List Card) : List Seat :=
  players.mapIdx fun place player => { player, hand := share players.length size place deck }

theorem dealRounds_map (players : List PlayerId) (size : Nat) (deck : List Card) :
    dealRounds size (players.map fun player => { player, hand := [] }) deck =
      (dealtSeats players size deck, deck.drop (size * players.length)) := by
  rw [dealRounds_eq, List.length_map]
  congr 1
  apply List.ext_getElem?
  intro place
  simp [dealtSeats, Function.comp_def]

theorem players_dealtSeats (players : List PlayerId) (size : Nat) (deck : List Card) :
    (dealtSeats players size deck).map Seat.player = players := by
  apply List.ext_getElem?
  intro place
  simp [dealtSeats, Function.comp_def]

theorem hand_of_dealtSeats {size place : Nat} {deck : List Card} {seat : Seat}
    (sits : (dealtSeats players size deck)[place]? = some seat) :
    place < players.length ∧ seat.hand = share players.length size place deck := by
  rw [dealtSeats, List.getElem?_mapIdx] at sits
  rcases Option.map_eq_some_iff.1 sits with ⟨player, found, rfl⟩
  exact ⟨(List.getElem?_eq_some_iff.1 found).1, rfl⟩

/-- The game of the players with hands of the given size, the next card turned up. -/
def dealtGame (players : List PlayerId) (size : Nat) (chance : Deal) (top : Card) : Game where
  seats := dealtSeats players size chance.cards
  top := top
  stock := {
    deck := chance.cards.drop (size * players.length + 1)
    pile := []
    recycles := chance.recycles }
  phase := .active 0 none
  leaderboard := []

theorem deal_of_few (few : players.length < 2) (wanted : Nat) (chance : Deal) :
    Game.deal players wanted chance = .error (.notEnoughPlayers players.length) :=
  if_pos few

theorem deal_of_many (many : 30 < players.length) (wanted : Nat) (chance : Deal) :
    Game.deal players wanted chance = .error (.tooManyPlayers players.length) := by
  simp only [deal]
  rw [if_neg (by omega), if_pos (largestHand_eq_zero many)]

/-- A deal to two to thirty players succeeds. -/
theorem deal_of_fits (two : 2 ≤ players.length) (few : players.length ≤ 30) (wanted : Nat)
    (chance : Deal) :
    ∃ top, chance.cards[handSize players.length wanted * players.length]? = some top ∧
      Game.deal players wanted chance =
        .ok (dealtGame players (handSize players.length wanted) chance top) := by
  have fits : largestHand players.length ≠ 0 := largestHand_ne_zero (by omega) few
  have sizes := handSize_mul_le wanted fits
  have within : handSize players.length wanted * players.length < chance.cards.length := by
    rw [Deal.length_cards]
    omega
  refine ⟨_, List.getElem?_eq_getElem within, ?_⟩
  simp only [deal]
  rw [if_neg (by omega), if_neg fits, dealRounds_map, List.drop_eq_getElem_cons within]
  rfl

theorem length_of_deal (dealt : Game.deal players wanted chance = .ok game) :
    2 ≤ players.length ∧ players.length ≤ 30 := by
  refine ⟨Nat.le_of_not_lt fun few => ?_, Nat.le_of_not_lt fun many => ?_⟩
  · rw [deal_of_few few] at dealt
    cases dealt
  · rw [deal_of_many many] at dealt
    cases dealt

/-- What is dealt, if anything is. -/
theorem deal_eq_ok (dealt : Game.deal players wanted chance = .ok game) :
    ∃ top, chance.cards[handSize players.length wanted * players.length]? = some top ∧
      game = dealtGame players (handSize players.length wanted) chance top := by
  rcases length_of_deal dealt with ⟨two, few⟩
  rcases deal_of_fits two few wanted chance with ⟨top, next, dealt'⟩
  cases dealt.symm.trans dealt'
  exact ⟨top, next, rfl⟩

/-- Everybody is dealt as many cards. -/
theorem length_hand_of_deal (dealt : Game.deal players wanted chance = .ok game) :
    ∀ seat ∈ game.seats, seat.hand.length = handSize players.length wanted := by
  rcases length_of_deal dealt with ⟨two, few⟩
  have sizes := handSize_mul_le wanted (largestHand_ne_zero (by omega) few)
  rcases deal_eq_ok dealt with ⟨top, -, rfl⟩
  intro seat member
  rcases List.mem_iff_getElem?.1 member with ⟨place, sits⟩
  rcases hand_of_dealtSeats sits with ⟨within, hand⟩
  rw [hand]
  apply length_share within
  rw [Deal.length_cards]
  omega

/-- The first seat opens the game, nobody is ranked, and everybody holds cards. -/
theorem opening_of_deal (dealt : Game.deal players wanted chance = .ok game) :
    game.players = players ∧ game.phase = .active 0 none ∧ game.leaderboard = [] ∧
      ∀ seat ∈ game.seats, seat.InPlay := by
  have even := length_hand_of_deal dealt
  rcases deal_eq_ok dealt with ⟨top, -, rfl⟩
  refine ⟨players_dealtSeats players _ _, rfl, rfl, fun seat member => ?_⟩
  apply List.ne_nil_of_length_pos
  rw [even seat member]
  exact one_le_handSize players.length wanted

theorem exists_deal (two : 2 ≤ players.length) (few : players.length ≤ 30) (wanted : Nat)
    (chance : Deal) :
    ∃ game, Game.deal players wanted chance = .ok game ∧ game.players = players ∧
      game.phase = .active 0 none ∧ ∀ seat ∈ game.seats, seat.InPlay := by
  rcases deal_of_fits two few wanted chance with ⟨top, -, dealt⟩
  rcases opening_of_deal dealt with ⟨seated, phase, -, all⟩
  exact ⟨_, dealt, seated, phase, all⟩

theorem ready_of_deal (dealt : Game.deal players wanted chance = .ok game) :
    game.players = players ∧ game.Ready := by
  have two := (length_of_deal dealt).1
  rcases opening_of_deal dealt with ⟨seated, phase, -, all⟩
  refine ⟨seated, ?_⟩
  intro turn pending onTurn
  rw [phase] at onTurn
  cases onTurn
  have everybody : inPlay game.seats = game.seats := by
    apply List.filter_eq_self.2
    intro seat member
    simpa using all seat member
  have count : 2 ≤ game.seats.length := by
    rw [← seated, Game.players, List.length_map] at two
    exact two
  refine ⟨?_, by rwa [everybody]⟩
  have first : 0 < game.seats.length := by omega
  simpa [holdsAt, List.getElem?_eq_getElem first] using all _ (List.getElem_mem first)

end Deals

end Game

end CardTable
