import CardTable.Proofs.Game.Hands

/-!
# The ranking

Whoever empties a hand is ranked and stays ranked. Nobody is ranked twice, and of the players at the
table just those are ranked who hold no cards. A move leaves at most one player fewer with cards, so
in a game that has just ended exactly one player still holds some.
-/

namespace CardTable.Game

variable {game next : Game} {player asked : PlayerId}

/-! ## Card holders -/

theorem holdsCards_iff :
    game.holdsCards player = true ↔ ∃ hand, game.hand? player = some hand ∧ hand ≠ [] := by
  simp [holdsCards, Option.any_eq_true]

theorem holdsCards_congr (same : next.hand? player = game.hand? player) :
    next.holdsCards player = game.holdsCards player := by
  rw [holdsCards, same, holdsCards]

theorem filter_holdsCards (distinct : game.players.Nodup) :
    game.players.filter game.holdsCards = (inPlay game.seats).map Seat.player := by
  rw [players, List.filter_map, inPlay]
  congr 1
  apply List.filter_congr
  intro seat member
  by_cases empty : seat.hand = [] <;>
    simp [holdsCards, hand?_of_mem distinct member, Seat.InPlay, empty]

theorem length_holders (distinct : game.players.Nodup) :
    (game.players.filter game.holdsCards).length = game.stillPlaying := by
  rw [filter_holdsCards distinct, List.length_map, stillPlaying]

/-- Whoever is on turn holds cards. -/
theorem holdsCards_of_turnOf {turn : Turn} (ready : game.Ready)
    (allowed : game.turnOf player = .ok turn) : game.holdsCards player = true := by
  rcases turnOf_eq_ok_iff.1 allowed with ⟨onTurn, found⟩
  rcases exists_ring ready onTurn with ⟨seat, _, _, first, held, _⟩
  have hand : handAt game.seats turn.place = seat.hand := by simp [handAt, first]
  exact holdsCards_iff.2 ⟨seat.hand, hand ▸ hand?_of_seatOf? found, held⟩

theorem two_le_stillPlaying (ready : game.Ready) (on : game.phase ≠ .finished) :
    2 ≤ game.stillPlaying := by
  cases phase : game.phase with
  | finished => exact (on phase).elim
  | active turn pending => exact (ready turn pending phase).2

/-- No move takes the cards of two players. -/
theorem stillPlaying_le_of_attempt {move : Move} (accepted : game.attempt move = .ok next) :
    game.stillPlaying ≤ next.stillPlaying + 1 := by
  rcases acts_or_leaves accepted with ⟨_, acts⟩ | ⟨_, leaves⟩
  · rcases acts with ⟨before, behind, seat, hand, _, _, seated, _, _, seats, _, _⟩
    simp only [stillPlaying, seated, seats, inPlay_append, inPlay_cons, List.length_append]
    split <;> split <;> simp <;> omega
  · rcases leaves with ⟨before, behind, seat, seated, _, seats, _, _⟩
    simp only [stillPlaying, seated, seats, inPlay_append, inPlay_cons, List.length_append]
    split
    · simp
      omega
    · omega

/-- A game that is over just if at most one player is left with cards, and in which whoever is on turn
holds some. -/
structure Settled (game : Game) : Prop where
  ready : game.Ready
  finished_iff : game.phase = .finished ↔ game.stillPlaying ≤ 1

theorem Follows.settled {ring : List Seat} (follows : game.Follows ring) : game.Settled := by
  refine ⟨follows.ready, ?_⟩
  cases follows with
  | ended few phase => exact ⟨fun _ => few, fun _ => phase⟩
  | on place pending two phase =>
    change 2 ≤ game.stillPlaying at two
    constructor
    · intro ended
      cases phase.symm.trans ended
    · omega

theorem settled_of_on (ready : game.Ready) (on : game.phase ≠ .finished) : game.Settled := by
  have two := two_le_stillPlaying ready on
  exact ⟨ready, fun ended => (on ended).elim, by omega⟩

theorem Settled.attempt {move : Move} (settled : game.Settled)
    (accepted : game.attempt move = .ok next) : next.Settled := by
  rcases acts_or_leaves accepted with ⟨_, acts⟩ | ⟨_, leaves⟩
  · rcases acts.follows with ⟨_, _, _, _, _, _, _, _, _, follows⟩
    exact follows.settled
  · cases phase : game.phase with
    | active turn pending =>
      have within := lt_length_of_holdsAt (settled.ready turn pending phase).1
      rcases leaves.follows phase within with ⟨_, _, _, _, _, _, follows⟩
      exact follows.settled
    | finished =>
      -- a seat is taken away from a table where the game is over already
      have few := settled.finished_iff.1 phase
      rcases leaves with ⟨before, behind, seat, seated, _, seats, finish, _⟩
      rw [phase] at finish
      have fewer : next.seats.Sublist game.seats := by
        rw [seats, seated]
        exact (List.sublist_cons_self seat behind).append_left before
      have holders : (inPlay next.seats).length ≤ (inPlay game.seats).length :=
        (fewer.filter _).length_le
      exact (@Follows.ended next next.seats (holders.trans few) finish).settled

/-- A game is over as soon as one player is left with cards. -/
theorem finished_iff_of_attempt {move : Move} (ready : game.Ready) (on : game.phase ≠ .finished)
    (accepted : game.attempt move = .ok next) :
    next.phase = .finished ↔ next.stillPlaying = 1 := by
  have before := two_le_stillPlaying ready on
  have drop := stillPlaying_le_of_attempt accepted
  rw [((settled_of_on ready on).attempt accepted).finished_iff]
  omega

/-! ## Emptied hands -/

/-- The player has given away the last card. -/
def Empties (game next : Game) (player : PlayerId) : Prop :=
  game.holdsCards player = true ∧ next.holdsCards player = false

instance (game next : Game) (player : PlayerId) : Decidable (game.Empties next player) :=
  inferInstanceAs (Decidable (_ ∧ _))

theorem emptiedHand_of_play {card : Card} {played : Played}
    (accepted : game.play player card = .ok (played, next)) :
    game.holdsCards player = true ∧ (played.emptiedHand = true ↔ next.holdsCards player = false) ∧
      next.leaderboard =
        if played.emptiedHand then game.leaderboard ++ [player] else game.leaderboard := by
  have hands := hand?_of_play accepted player
  rcases play_eq_ok accepted with ⟨turn, allowed, held, legal, rfl, _⟩
  have hand := hand?_of_seatOf? (turnOf_eq_ok_iff.1 allowed).2
  rw [if_pos rfl, hand, Option.map_some] at hands
  rw [play_of_turn allowed, if_neg (not_not.2 held), if_neg (not_not.2 legal)] at accepted
  cases accepted
  refine ⟨holdsCards_iff.2 ⟨_, hand, List.ne_nil_of_mem held⟩, ?_, ?_⟩
  · rw [holdsCards, hands, Option.any_some, decide_eq_true_eq, decide_eq_false_iff_not, not_not]
  · simp [laid]

theorem empties_of_play_iff {card : Card} {played : Played}
    (accepted : game.play player card = .ok (played, next)) :
    game.Empties next asked ↔ asked = player ∧ played.emptiedHand = true := by
  rcases emptiedHand_of_play accepted with ⟨held, emptied, _⟩
  by_cases same : asked = player
  · subst same
    simp [Empties, held, emptied]
  · have kept := holdsCards_congr ((hand?_of_play accepted asked).trans (if_neg same))
    simp [Empties, kept, same]

/-- Drawing and giving in leave everybody with cards who has some. -/
theorem holdsCards_of_draws {move : Move} (ready : game.Ready)
    (accepted : game.attempt move = .ok next)
    (draws : move = .draw player ∨ move = .pass player) :
    next.holdsCards asked = game.holdsCards asked ∧ next.leaderboard = game.leaderboard := by
  have grown {turn : Turn} (allowed : game.turnOf player = .ok turn) {cards : List Card}
      (hands : next.hand? asked =
        if asked = player then (game.hand? player).map (· ++ cards) else game.hand? asked) :
      next.holdsCards asked = game.holdsCards asked := by
    split at hands
    · next same =>
      have held := holdsCards_of_turnOf ready allowed
      rcases holdsCards_iff.1 held with ⟨hand, before, some_cards⟩
      rw [before, Option.map_some] at hands
      rw [same, held]
      exact holdsCards_iff.2 ⟨hand ++ cards, same ▸ hands, by simp [some_cards]⟩
    · exact holdsCards_congr hands
  rcases draws with rfl | rfl
  · rcases map_snd_eq_ok accepted with ⟨cards, drawn⟩
    rcases drawCard_eq_ok drawn with ⟨turn, allowed, _, after⟩
    have later : (game.drawFor turn.place 1).2 = next := congrArg Prod.snd after
    exact ⟨grown allowed (hand?_of_drawCard drawn asked), later ▸ rfl⟩
  · rcases map_snd_eq_ok accepted with ⟨passed, gave_in⟩
    have hands := hand?_of_pass gave_in asked
    rcases pass_eq_ok gave_in with ⟨turn, allowed, effect⟩
    refine ⟨?_, ?_⟩
    · cases passed with
      | skipped => exact holdsCards_congr hands
      | drew cards => exact grown allowed hands
    · rcases effect with ⟨_, rfl⟩ | ⟨count, _, rfl⟩ <;> rfl

theorem leaderboard_of_remove (removed : game.remove player = .ok next) :
    next.leaderboard = game.leaderboard := by
  unfold remove at removed
  split at removed
  · cases removed
  · cases removed
    rfl

theorem players_of_remove (distinct : game.players.Nodup)
    (removed : game.remove player = .ok next) : next.players = game.players.erase player :=
  (leaves_of_remove removed).players distinct

/-- Whoever has no cards can leave without the number of card holders changing. -/
theorem stillPlaying_of_remove (distinct : game.players.Nodup)
    (removed : game.remove player = .ok next) (empty : game.holdsCards player = false) :
    next.stillPlaying = game.stillPlaying := by
  rcases leaves_of_remove removed with ⟨before, behind, seat, seated, rfl, seats, _, _⟩
  have held := hand?_of_mem distinct (seated ▸ List.mem_append_right _ List.mem_cons_self)
  have idle : ¬seat.InPlay := by
    simpa [holdsCards, held, Seat.InPlay] using empty
  simp only [stillPlaying, seated, seats, inPlay_append, inPlay_cons, if_neg idle]

/-! ## Who is ranked -/

/-- Nobody is ranked twice, and just those at the table hold cards who are not ranked. -/
structure Ranked (game : Game) : Prop where
  distinct : game.players.Nodup
  once : game.leaderboard.Nodup
  holds_iff : ∀ player ∈ game.players, game.holdsCards player = true ↔ player ∉ game.leaderboard

theorem ranked_of_deal {players : List PlayerId} {wanted : Nat} {chance : Deal}
    (distinct : players.Nodup) (dealt : Game.deal players wanted chance = .ok game) :
    game.Ranked ∧ game.leaderboard = [] := by
  rcases opening_of_deal dealt with ⟨seated, -, nobody, all⟩
  refine ⟨⟨seated ▸ distinct, by simp [nobody], ?_⟩, nobody⟩
  intro player member
  rcases exists_hand member with ⟨seat, here, hand⟩
  have held := holdsCards_iff.2 ⟨seat.hand, hand, all seat here⟩
  simp [held, nobody]

theorem Ranked.attempt {move : Move} (ranked : game.Ranked) (ready : game.Ready)
    (accepted : game.attempt move = .ok next) : next.Ranked := by
  have distinct := distinct_of_attempt ranked.distinct accepted
  have drawn {player : PlayerId} (acts : game.Acts player next)
      (same : ∀ asked, next.holdsCards asked = game.holdsCards asked ∧
        next.leaderboard = game.leaderboard) : next.Ranked := by
    refine ⟨distinct, (same player).2 ▸ ranked.once, ?_⟩
    intro asked member
    rw [(same asked).1, (same asked).2]
    exact ranked.holds_iff asked (acts.players ▸ member)
  cases move with
  | draw player =>
    have acts : game.Acts player next := @acts_of_attempt _ _ (.draw player) trivial accepted
    exact drawn acts fun asked => holdsCards_of_draws ready accepted (.inl rfl)
  | pass player =>
    have acts : game.Acts player next := @acts_of_attempt _ _ (.pass player) trivial accepted
    exact drawn acts fun asked => holdsCards_of_draws ready accepted (.inr rfl)
  | remove player =>
    have removed : game.remove player = .ok next := accepted
    have players := players_of_remove ranked.distinct removed
    refine ⟨distinct, leaderboard_of_remove removed ▸ ranked.once, ?_⟩
    intro asked member
    rw [players, ranked.distinct.mem_erase_iff] at member
    rw [holdsCards_congr (hand?_of_remove removed member.1), leaderboard_of_remove removed]
    exact ranked.holds_iff asked member.2
  | play player card =>
    rcases map_snd_eq_ok accepted with ⟨played, laid⟩
    have acts := acts_of_play laid
    rcases emptiedHand_of_play laid with ⟨held, emptied, leaderboard⟩
    have mover : player ∈ game.players := by
      rcases acts with ⟨_, _, seat, _, _, _, seated, owner, _⟩
      simp [Game.players, seated, owner]
    have unranked := (ranked.holds_iff player mover).1 held
    refine ⟨distinct, ?_, ?_⟩
    · rw [leaderboard]
      split
      · simpa using ranked.once.concat unranked
      · exact ranked.once
    · intro asked member
      rw [acts.players] at member
      by_cases same : asked = player
      · subst same
        cases empty : played.emptiedHand with
        | true => simp [leaderboard, empty, emptied.1 empty]
        | false =>
          have still : next.holdsCards asked = true := by
            simpa [empty] using emptied
          simp [leaderboard, empty, still, unranked]
      · have kept := holdsCards_congr ((hand?_of_play laid asked).trans (if_neg same))
        rw [kept, ranked.holds_iff asked member, leaderboard]
        split <;> simp [same]

theorem sublist_players_of_attempt {move : Move} (distinct : game.players.Nodup)
    (accepted : game.attempt move = .ok next) : next.players.Sublist game.players := by
  rcases acts_or_leaves accepted with ⟨-, acts⟩ | ⟨-, leaves⟩
  · rw [acts.players]
  · rw [leaves.players distinct]
    exact List.erase_sublist

theorem leaderboard_subset_of_attempt {move : Move} (ready : game.Ready)
    (accepted : game.attempt move = .ok next) : game.leaderboard ⊆ next.leaderboard := by
  cases move with
  | draw player =>
    exact (@holdsCards_of_draws _ _ _ player _ ready accepted (.inl rfl)).2 ▸ fun _ => id
  | pass player =>
    exact (@holdsCards_of_draws _ _ _ player _ ready accepted (.inr rfl)).2 ▸ fun _ => id
  | remove player => exact leaderboard_of_remove accepted ▸ fun _ => id
  | play player card =>
    rcases map_snd_eq_ok accepted with ⟨played, laid⟩
    rw [(emptiedHand_of_play laid).2.2]
    split
    · exact List.subset_append_left _ _
    · exact fun _ => id

/-- Whoever has emptied a hand gets no cards any more. -/
theorem Ranked.holdsCards_of_attempt {move : Move} (ranked : game.Ranked) (ready : game.Ready)
    (accepted : game.attempt move = .ok next) (member : player ∈ next.players)
    (holds : next.holdsCards player = true) : game.holdsCards player = true := by
  have member' := (sublist_players_of_attempt ranked.distinct accepted).mem member
  have unranked := ((ranked.attempt ready accepted).holds_iff player member).1 holds
  exact (ranked.holds_iff player member').2 fun first =>
    unranked (leaderboard_subset_of_attempt ready accepted first)

/-! ## The standings -/

theorem standings_eq (distinct : game.players.Nodup) :
    game.standings = game.leaderboard ++ game.players.filter game.holdsCards := by
  rw [standings, filter_holdsCards distinct]

namespace Ranked

variable (ranked : game.Ranked)

include ranked

theorem nodup_standings : game.standings.Nodup := by
  rw [standings_eq ranked.distinct]
  refine List.nodup_append'.2 ⟨ranked.once, ranked.distinct.filter _, ?_⟩
  intro player first last
  rcases List.mem_filter.1 last with ⟨member, held⟩
  exact (ranked.holds_iff player member).1 held first

theorem mem_standings (member : player ∈ game.players) : player ∈ game.standings := by
  rw [standings_eq ranked.distinct, List.mem_append, List.mem_filter]
  by_cases first : player ∈ game.leaderboard
  · exact .inl first
  · exact .inr ⟨member, (ranked.holds_iff player member).2 first⟩

/-- The only player with cards comes last. -/
theorem exists_holder (one : game.stillPlaying = 1) :
    ∃ holder, game.players.filter game.holdsCards = [holder] ∧
      game.standings = game.leaderboard ++ [holder] := by
  rw [← length_holders ranked.distinct] at one
  rcases List.length_eq_one_iff.1 one with ⟨holder, only⟩
  exact ⟨holder, only, by rw [standings_eq ranked.distinct, only]⟩

/-- If a departure leaves one player with cards, whoever has left held cards and is not ranked. -/
theorem notMem_standings_of_remove (removed : game.remove player = .ok next)
    (two : 2 ≤ game.stillPlaying) (one : next.stillPlaying = 1) : player ∉ next.standings := by
  have held : game.holdsCards player = true := by
    by_contra empty
    have same := stillPlaying_of_remove ranked.distinct removed (by simpa using empty)
    omega
  have seated : player ∈ game.players := by
    rcases leaves_of_remove removed with ⟨_, _, seat, seated, owner, _⟩
    simp [Game.players, seated, owner]
  have players := players_of_remove ranked.distinct removed
  rw [standings_eq (players ▸ ranked.distinct.erase player), leaderboard_of_remove removed, players,
    List.mem_append, List.mem_filter, ranked.distinct.mem_erase_iff]
  rintro (first | ⟨⟨other, _⟩, _⟩)
  · exact (ranked.holds_iff player seated).1 held first
  · exact other rfl

end Ranked

end CardTable.Game
