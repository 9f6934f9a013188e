import CardTable.Proofs.Game.Legality
import CardTable.Proofs.Game.Ranking

/-!
# The order of the finishers

A finisher is a player whose play leaves no card in the hand. The leaderboard of a game lists its
finishers in the order of these plays, and no later move takes an entry away or puts it elsewhere.
A game that is over has been ended by one move, which leaves one player with cards; as long as nobody
leaves after that, the standings end with this player.
-/

namespace CardTable.Game

variable {game next : Game} {player : PlayerId} {moves : List Move}

/-- The player who says in a move that the hand is empty now. -/
def finisher? (game : Game) : Move → Option PlayerId
  | .play player card =>
    match game.play player card with
    | .ok (played, _) => if played.emptiedHand then some player else none
    | .error _ => none
  | _ => none

/-- The finishers of some moves, in the order of their plays. -/
def finishers (game : Game) : List Move → List PlayerId
  | [] => []
  | move :: moves => (game.finisher? move).toList ++ (game.after move).finishers moves

/-! ## Runs -/

theorem run_append (game : Game) (moves later : List Move) :
    game.run (moves ++ later) = (game.run moves).run later :=
  List.foldl_append

theorem Ranked.run (ranked : game.Ranked) (ready : game.Ready) (moves : List Move) :
    (game.run moves).Ranked ∧ (game.run moves).Ready := by
  refine run_induction (motive := fun later => later.Ranked ∧ later.Ready) ⟨ranked, ready⟩ ?_ moves
  rintro earlier next move ⟨ranked, ready⟩ accepted
  exact ⟨ranked.attempt ready accepted, ready_of_attempt ready accepted⟩

theorem sublist_players_run (distinct : game.players.Nodup) (moves : List Move) :
    (game.run moves).players.Sublist game.players := by
  have kept : (game.run moves).players.Nodup ∧ (game.run moves).players.Sublist game.players := by
    refine run_induction (motive := fun later => later.players.Nodup ∧
      later.players.Sublist game.players) ⟨distinct, .refl _⟩ ?_ moves
    rintro earlier next move ⟨distinct, fewer⟩ accepted
    exact ⟨distinct_of_attempt distinct accepted,
      (sublist_players_of_attempt distinct accepted).trans fewer⟩
  exact kept.2

/-! ## The leaderboard -/

/-- A move adds its finisher to the leaderboard, and nobody else. -/
theorem leaderboard_after (ready : game.Ready) (move : Move) :
    (game.after move).leaderboard = game.leaderboard ++ (game.finisher? move).toList := by
  cases accepted : game.attempt move with
  | error error =>
    have refused : game.finisher? move = none := by
      cases move with
      | play player card => rw [finisher?, map_snd_eq_error accepted]
      | draw | pass | remove => rfl
    simp [after, accepted, refused]
  | ok next =>
    rw [after, accepted]
    cases move with
    | play player card =>
      rcases map_snd_eq_ok accepted with ⟨played, laid⟩
      rw [(emptiedHand_of_play laid).2.2, finisher?, laid]
      dsimp only
      split <;> simp
    | draw player =>
      have kept := (@holdsCards_of_draws _ _ _ player _ ready accepted (.inl rfl)).2
      simpa [finisher?] using kept
    | pass player =>
      have kept := (@holdsCards_of_draws _ _ _ player _ ready accepted (.inr rfl)).2
      simpa [finisher?] using kept
    | remove player => simpa [finisher?] using leaderboard_of_remove accepted

theorem leaderboard_run (ranked : game.Ranked) (ready : game.Ready) (moves : List Move) :
    (game.run moves).leaderboard = game.leaderboard ++ game.finishers moves := by
  induction moves generalizing game with
  | nil => simp [run, finishers]
  | cons move moves ih =>
    rcases ranked.run ready [move] with ⟨ranked', ready'⟩
    calc ((game.after move).run moves).leaderboard
      _ = (game.after move).leaderboard ++ (game.after move).finishers moves := ih ranked' ready'
      _ = game.leaderboard ++ game.finishers (move :: moves) := by
        rw [leaderboard_after ready, finishers, List.append_assoc]

/-! ## Players without cards -/

theorem mem_players_of_hand? {hand : List Card} (held : game.hand? player = some hand) :
    player ∈ game.players := by
  rcases Option.map_eq_some_iff.1 held with ⟨seat, found, _⟩
  have owner : seat.player = player := by simpa using List.find?_some found
  exact owner ▸ List.mem_map_of_mem (List.mem_of_find?_eq_some found)

theorem Ranked.hand?_eq_nil_iff (ranked : game.Ranked) (member : player ∈ game.players) :
    game.hand? player = some [] ↔ player ∈ game.leaderboard := by
  rcases exists_hand member with ⟨seat, -, hand⟩
  have holds := ranked.holds_iff player member
  rw [holdsCards, hand] at holds
  rw [hand, Option.some_inj, ← not_iff_not]
  simpa using holds

/-- Whoever is ranked holds no cards, and is gone or at the table still. -/
theorem Ranked.hand_of_ranked (ranked : game.Ranked) (first : player ∈ game.leaderboard)
    {hand : List Card} (held : game.hand? player = some hand) : hand = [] := by
  have empty := (ranked.hand?_eq_nil_iff (mem_players_of_hand? held)).2 first
  exact Option.some.inj (held.symm.trans empty)

theorem Ranked.currentPlayer?_ne (ranked : game.Ranked) (ready : game.Ready)
    (first : player ∈ game.leaderboard) : game.currentPlayer? ≠ some player := by
  intro current
  rcases (exists_turn_iff ranked.distinct).2 current with ⟨turn, allowed⟩
  rcases holdsCards_iff.1 (holdsCards_of_turnOf ready allowed) with ⟨hand, held, some_cards⟩
  exact some_cards (ranked.hand_of_ranked first held)

/-! ## The end of a game -/

/-- A game that is over after some moves has been ended by one of them. -/
theorem exists_last_move (on : game.phase ≠ .finished) (ended : (game.run moves).phase = .finished) :
    ∃ before move later, moves = before ++ move :: later ∧ (game.run before).phase ≠ .finished ∧
      (game.run (before ++ [move])).phase = .finished := by
  induction moves generalizing game with
  | nil => exact (on ended).elim
  | cons move moves ih =>
    by_cases now : (game.after move).phase = .finished
    · exact ⟨[], move, moves, rfl, on, now⟩
    · rcases ih now ended with ⟨before, last, later, rfl, earlier, finish⟩
      exact ⟨move :: before, last, later, rfl, earlier, finish⟩

/-- While nobody leaves, a game that is over stays as it is. -/
theorem run_of_finished (distinct : game.players.Nodup) (ended : game.phase = .finished)
    (stay : (game.run moves).players = game.players) : game.run moves = game := by
  induction moves with
  | nil => rfl
  | cons move moves ih =>
    change (game.after move).run moves = game
    change ((game.after move).run moves).players = game.players at stay
    cases attempted : game.attempt move with
    | error error =>
      have same : game.after move = game := by simp [after, attempted]
      rw [same] at stay ⊢
      exact ih stay
    | ok next =>
      rcases acts_or_leaves attempted with ⟨action, -⟩ | ⟨-, leaves⟩
      · rw [attempt_of_finished ended action] at attempted
        cases attempted
      · -- whoever has left does not come back
        have gone : game.after move = next := by simp [after, attempted]
        have fewer := (sublist_players_run (distinct_of_attempt distinct attempted) moves).length_le
        rw [gone] at stay
        rw [stay] at fewer
        rcases leaves with ⟨before, behind, seat, seated, -, seats, -, -⟩
        simp only [players, seated, seats, List.length_map, List.length_append,
          List.length_cons] at fewer
        omega

/-- The move that ends a game leaves one player with cards. -/
theorem Ranked.exists_holder_after (ranked : game.Ranked) (ready : game.Ready)
    (on : game.phase ≠ .finished) {move : Move}
    (finish : (game.after move).phase = .finished) :
    ∃ holder, (∀ player, (game.after move).holdsCards player = true ↔ player = holder) ∧
      (game.after move).standings = (game.after move).leaderboard ++ [holder] := by
  cases accepted : game.attempt move with
  | error error =>
    have same : game.after move = game := by simp [after, accepted]
    exact (on (same ▸ finish)).elim
  | ok next =>
    have moved : game.after move = next := by simp [after, accepted]
    rw [moved] at finish ⊢
    have ranked' := ranked.attempt ready accepted
    have one := (finished_iff_of_attempt ready on accepted).1 finish
    rcases ranked'.exists_holder one with ⟨holder, only, standings⟩
    refine ⟨holder, fun player => ?_, standings⟩
    have holders : player ∈ next.players.filter next.holdsCards ↔ player = holder := by simp [only]
    rw [← holders, List.mem_filter]
    refine ⟨fun holds => ⟨?_, holds⟩, And.right⟩
    rcases holdsCards_iff.1 holds with ⟨hand, held, -⟩
    exact mem_players_of_hand? held

/-! ## The ranking -/

/-- How the players of a game are ranked after some moves. -/
structure RanksFinishers (start : Game) (moves : List Move) : Prop where
  order : (start.run moves).leaderboard = start.finishers moves
  once : (start.run moves).leaderboard.Nodup
  /-- Whatever happens later only adds to the leaderboard. -/
  grows : ∀ later, (start.run moves).leaderboard <+: (start.run (moves ++ later)).leaderboard
  empty_iff : ∀ player ∈ (start.run moves).players,
    (start.run moves).hand? player = some [] ↔ player ∈ (start.run moves).leaderboard
  /-- Whoever has finished gets neither cards nor a turn any more. -/
  done : ∀ player ∈ (start.run moves).leaderboard, ∀ later,
    (∀ hand, (start.run (moves ++ later)).hand? player = some hand → hand = []) ∧
      (start.run (moves ++ later)).currentPlayer? ≠ some player
  standings_once : (start.run moves).standings.Nodup
  seated_once : ∀ player ∈ (start.run moves).players, (start.run moves).standings.count player = 1
  finishers_first : (start.run moves).standings =
    start.finishers moves ++ (start.run moves).players.filter (start.run moves).holdsCards
  /-- A game that is over has been ended by a move that left one player with cards, and until somebody
  leaves this player comes last. -/
  last : (start.run moves).phase = .finished → ∃ before move later,
    moves = before ++ move :: later ∧ (start.run before).phase ≠ .finished ∧
      (start.run (before ++ [move])).phase = .finished ∧
      ∃ holder, (∀ player, (start.run (before ++ [move])).holdsCards player = true ↔
          player = holder) ∧
        ((start.run moves).players = (start.run (before ++ [move])).players →
          (start.run moves).standings.getLast? = some holder)

/-- The leaderboard of a dealt game is the order in which its players have finished, whatever is tried
in it, and the standings go on from there. -/
theorem leaderboard_exact {players : List PlayerId} {wanted : Nat} {chance : Deal} {start : Game}
    (distinct : players.Nodup) (dealt : Game.deal players wanted chance = .ok start)
    (moves : List Move) : start.RanksFinishers moves := by
  rcases ranked_of_deal distinct dealt with ⟨ranked, nobody⟩
  have ready := (ready_of_deal dealt).2
  have always (moves : List Move) : (start.run moves).Ranked ∧ (start.run moves).Ready ∧
      (start.run moves).leaderboard = start.finishers moves := by
    rcases ranked.run ready moves with ⟨ranked', ready'⟩
    exact ⟨ranked', ready', by rw [leaderboard_run ranked ready, nobody, List.nil_append]⟩
  rcases always moves with ⟨ranked', ready', order⟩
  have grows (later : List Move) :
      (start.run moves).leaderboard <+: (start.run (moves ++ later)).leaderboard := by
    rw [run_append, leaderboard_run ranked' ready']
    exact List.prefix_append _ _
  refine ⟨order, ranked'.once, grows, fun player => ranked'.hand?_eq_nil_iff, ?_,
    ranked'.nodup_standings, ?_, ?_, ?_⟩
  · intro player first later
    rcases always (moves ++ later) with ⟨ranked'', ready'', -⟩
    have still := (grows later).subset first
    exact ⟨fun hand => ranked''.hand_of_ranked still, ranked''.currentPlayer?_ne ready'' still⟩
  · intro player member
    exact List.count_eq_one_of_mem ranked'.nodup_standings (ranked'.mem_standings member)
  · rw [standings_eq ranked'.distinct, order]
  · intro ended
    have begun : start.phase ≠ .finished := by
      rcases length_of_deal dealt with ⟨two, few⟩
      rcases exists_deal two few wanted chance with ⟨same, dealt', -, phase, -⟩
      cases dealt.symm.trans dealt'
      simp [phase]
    rcases exists_last_move begun ended with ⟨before, move, later, rfl, on, finish⟩
    rcases always before with ⟨ranked_before, ready_before, -⟩
    rcases always (before ++ [move]) with ⟨ranked_then, -, -⟩
    have end_eq : start.run (before ++ [move]) = (start.run before).after move :=
      run_append start before [move]
    rcases ranked_before.exists_holder_after ready_before on (end_eq ▸ finish) with
      ⟨holder, only, standings⟩
    rw [← end_eq] at only standings
    refine ⟨before, move, later, rfl, on, finish, holder, only, ?_⟩
    have split : before ++ move :: later = (before ++ [move]) ++ later := by simp
    rw [split, run_append]
    intro stay
    rw [run_of_finished ranked_then.distinct finish stay, standings, List.getLast?_append]
    rfl

/-- The first finisher leaves, and stays ahead of the second one, who ends the game. -/
theorem leaderboard_exact_of_early_leaver :
    ∃ start, Game.deal [1, 2, 3] 1 default = .ok start ∧
      let moves := [.play 1 ⟨.diamonds, .ace⟩, .pass 2, .remove 1, .play 3 ⟨.diamonds, .ober⟩]
      start.finishers moves = [1, 3] ∧ (start.run moves).leaderboard = [1, 3] ∧
        (start.run moves).phase = .finished ∧ (start.run moves).hand? 3 = some [] ∧
        (start.run moves).standings = [1, 3, 2] := by
  refine ⟨_, rfl, ?_⟩
  intro moves
  have ranks := @leaderboard_exact [1, 2, 3] 1 default _ (by decide) rfl moves
  exact ⟨rfl, ranks.order, rfl, (ranks.empty_iff 3 (by decide)).2 (by decide),
    ranks.finishers_first⟩

end CardTable.Game
