import CardTable.Proofs.Game.Hands
import CardTable.Proofs.Game.InPlace
import CardTable.Proofs.Game.Refusals

/-!
# Which moves are accepted

While a game is on, exactly one player may act: the one on turn, who can always either draw or give
in, and never both. The file says exactly which cards that player may play, and that everything
else is refused and changes nothing, not even in a game that is kept in place. Once a game is over
it accepts no action any more.
-/

namespace CardTable.Game

variable {game : Game} {player : PlayerId} {place : Nat}

/-! ## The player on turn -/

theorem seatOf?_of_getElem? (distinct : game.players.Nodup) {seat : Seat}
    (here : game.seats[place]? = some seat) : seatOf? game.seats seat.player = some place := by
  rcases List.getElem?_eq_some_iff.1 here with ⟨within, rfl⟩
  apply List.findIdx?_eq_some_iff_getElem.2
  refine ⟨within, by simp, ?_⟩
  intro earlier before same
  have inside : earlier < game.players.length := by
    simpa [players] using before.trans within
  have named : game.players[earlier]? = game.players[place]? := by
    simpa [players, List.getElem?_eq_getElem, before.trans within, within] using same
  have equal := (List.getElem?_inj inside distinct).1 named
  omega

/-- Whoever has the turn is the current player. -/
theorem exists_turn_iff (distinct : game.players.Nodup) :
    (∃ turn, game.turnOf player = .ok turn) ↔ game.currentPlayer? = some player := by
  constructor
  · rintro ⟨turn, allowed⟩
    rcases turnOf_eq_ok_iff.1 allowed with ⟨onTurn, found⟩
    rcases seatOf?_eq_some found with ⟨before, seat, behind, seated, length, owner, -⟩
    simp [currentPlayer?, onTurn, seated, ← length, owner]
  · intro current
    cases phase : game.phase with
    | finished => simp [currentPlayer?, phase] at current
    | active turn pending =>
      simp only [currentPlayer?, phase] at current
      rcases Option.map_eq_some_iff.1 current with ⟨seat, here, rfl⟩
      exact ⟨⟨turn, pending⟩, turnOf_eq_ok_iff.2 ⟨phase, seatOf?_of_getElem? distinct here⟩⟩

theorem pending_of_turnOf {turn : Turn} (allowed : game.turnOf player = .ok turn) :
    game.pending = turn.pending := by
  simp [pending, (turnOf_eq_ok_iff.1 allowed).1]

/-! ## Actions -/

/-- What a card has to be in order to be played. -/
theorem mayPlay_iff {card : Card} :
    MayPlay game.pending game.top card ↔
      (game.pending = some .skip → card.rank = .ace) ∧
      (∀ count, game.pending = some (.draw count) → card.rank = .seven) ∧
      (game.pending = none →
        card.rank = .ober ∨ card.suit = game.top.suit ∨ card.rank = game.top.rank) := by
  cases game.pending with
  | none => simp [MayPlay, Card.Matches]
  | some effect => cases effect <;> simp [MayPlay]

theorem exists_play_iff (distinct : game.players.Nodup) {card : Card} :
    (∃ result, game.play player card = .ok result) ↔
      game.currentPlayer? = some player ∧ (∃ hand, game.hand? player = some hand ∧ card ∈ hand) ∧
        MayPlay game.pending game.top card := by
  rw [← exists_turn_iff distinct]
  constructor
  · rintro ⟨⟨played, next⟩, accepted⟩
    rcases play_eq_ok accepted with ⟨turn, allowed, held, legal, -⟩
    have hand := hand?_of_seatOf? (turnOf_eq_ok_iff.1 allowed).2
    exact ⟨⟨turn, allowed⟩, ⟨_, hand, held⟩, pending_of_turnOf allowed ▸ legal⟩
  · rintro ⟨⟨turn, allowed⟩, ⟨hand, owns, held⟩, legal⟩
    rw [hand?_of_seatOf? (turnOf_eq_ok_iff.1 allowed).2] at owns
    cases owns
    rw [pending_of_turnOf allowed] at legal
    rw [play_of_turn allowed]
    simp [held, legal]

theorem exists_drawCard_iff (distinct : game.players.Nodup) :
    (∃ result, game.drawCard player = .ok result) ↔
      game.currentPlayer? = some player ∧ game.pending = none := by
  rw [← exists_turn_iff distinct]
  constructor
  · rintro ⟨⟨cards, next⟩, accepted⟩
    rcases drawCard_eq_ok accepted with ⟨turn, allowed, free, -⟩
    exact ⟨⟨turn, allowed⟩, (pending_of_turnOf allowed).trans free⟩
  · rintro ⟨⟨turn, allowed⟩, free⟩
    rw [pending_of_turnOf allowed] at free
    rw [drawCard_of_turn allowed, free]
    exact ⟨_, rfl⟩

theorem exists_pass_iff (distinct : game.players.Nodup) :
    (∃ result, game.pass player = .ok result) ↔
      game.currentPlayer? = some player ∧ game.pending ≠ none := by
  rw [← exists_turn_iff distinct]
  constructor
  · rintro ⟨⟨passed, next⟩, accepted⟩
    rcases pass_eq_ok accepted with ⟨turn, allowed, due⟩
    refine ⟨⟨turn, allowed⟩, ?_⟩
    rw [pending_of_turnOf allowed]
    rcases due with ⟨skip, -⟩ | ⟨count, due, -⟩
    · simp [skip]
    · simp [due]
  · rintro ⟨⟨turn, allowed⟩, due⟩
    rw [pending_of_turnOf allowed] at due
    rw [pass_of_turn allowed]
    cases pending : turn.pending with
    | none => exact (due pending).elim
    | some effect => cases effect <;> exact ⟨_, rfl⟩

/-- Whoever acts is on turn. -/
theorem currentPlayer?_of_attempt (distinct : game.players.Nodup) {move : Move} {next : Game}
    (action : move.IsAction) (accepted : game.attempt move = .ok next) :
    game.currentPlayer? = some move.player := by
  apply (exists_turn_iff distinct).1
  cases allowed : game.turnOf move.player with
  | ok turn => exact ⟨turn, rfl⟩
  | error error =>
    rw [attempt_of_error action allowed] at accepted
    cases accepted

/-! ## Games that are over -/

/-- A game that is over stays over, whoever leaves. -/
theorem phase_run_of_finished (ended : game.phase = .finished) (moves : List Move) :
    (game.run moves).phase = .finished := by
  refine run_induction (motive := fun later => later.phase = .finished) ended ?_ moves
  intro earlier next move ended accepted
  rcases acts_or_leaves accepted with ⟨-, acts⟩ | ⟨-, leaves⟩
  · rcases acts with ⟨_, _, _, _, _, _, _, _, onTurn, _⟩
    rw [ended] at onTurn
    cases onTurn
  · rcases leaves with ⟨_, _, _, _, _, _, phase, _⟩
    rw [phase, ended]

theorem attempt_of_finished (ended : game.phase = .finished) {move : Move}
    (action : move.IsAction) : game.attempt move = .error .finished := by
  apply attempt_of_error action
  rw [turnOf, ended]

/-! ## The rules -/

/-- What a game that is on accepts. -/
structure ObeysRules (game : Game) : Prop where
  /-- The player on turn may play a card from the hand that answers what is pending or, if nothing
  is, goes on the top card. -/
  play_iff : ∀ player card, (∃ result, game.play player card = .ok result) ↔
    game.currentPlayer? = some player ∧ (∃ hand, game.hand? player = some hand ∧ card ∈ hand) ∧
      (game.pending = some .skip → card.rank = .ace) ∧
      (∀ count, game.pending = some (.draw count) → card.rank = .seven) ∧
      (game.pending = none →
        card.rank = .ober ∨ card.suit = game.top.suit ∨ card.rank = game.top.rank)
  draw_iff : ∀ player, (∃ result, game.drawCard player = .ok result) ↔
    game.currentPlayer? = some player ∧ game.pending = none
  pass_iff : ∀ player, (∃ result, game.pass player = .ok result) ↔
    game.currentPlayer? = some player ∧ game.pending ≠ none
  /-- Exactly one player can act. -/
  mover : ∃! player, ∃ move, move.IsAction ∧ move.player = player ∧
    ∃ next, game.attempt move = .ok next
  /-- Whoever can act can either draw or give in, and not both. -/
  choice : ∀ move next, move.IsAction → game.attempt move = .ok next →
    Xor (∃ result, game.drawCard move.player = .ok result)
      (∃ result, game.pass move.player = .ok result)

theorem obeysRules_of_ready (distinct : game.players.Nodup) (ready : game.Ready)
    (on : game.phase ≠ .finished) : game.ObeysRules := by
  have either : ∀ player, game.currentPlayer? = some player →
      Xor (∃ result, game.drawCard player = .ok result)
        (∃ result, game.pass player = .ok result) := by
    intro player current
    rw [exists_drawCard_iff distinct, exists_pass_iff distinct]
    by_cases free : game.pending = none
    · exact .inl ⟨⟨current, free⟩, fun due => due.2 free⟩
    · exact .inr ⟨⟨current, free⟩, fun idle => free idle.2⟩
  refine ⟨?_, fun player => exists_drawCard_iff distinct, fun player => exists_pass_iff distinct,
    ?_, ?_⟩
  · intro player card
    rw [exists_play_iff distinct, mayPlay_iff]
  · cases phase : game.phase with
    | finished => exact (on phase).elim
    | active turn pending =>
      rcases currentPlayer?_of_ready ready phase with ⟨head, someone, -⟩
      rcases Option.isSome_iff_exists.1 someone with ⟨player, first⟩
      have current : game.currentPlayer? = some player := head.trans first
      refine ⟨player, ?_, ?_⟩
      · rcases either player current with ⟨⟨⟨cards, next⟩, drawn⟩, -⟩ | ⟨⟨⟨passed, next⟩, given⟩, -⟩
        · exact ⟨.draw player, trivial, rfl, next, by simp [attempt, drawn, Except.map]⟩
        · exact ⟨.pass player, trivial, rfl, next, by simp [attempt, given, Except.map]⟩
      · rintro other ⟨move, action, rfl, next, accepted⟩
        exact Option.some.inj ((currentPlayer?_of_attempt distinct action accepted).symm.trans current)
  · intro move next action accepted
    exact either move.player (currentPlayer?_of_attempt distinct action accepted)

/-- The rules, after any moves from a deal or a position: what a game that is on accepts; that a
refused move changes nothing, also where the game is kept in place and the move is written step by
step; and that a game that is over refuses every action from then on, whatever happens. -/
theorem rules_exact {start : Game} (opening : start.Opening) (moves : List Move) :
    ((start.run moves).phase ≠ .finished → (start.run moves).ObeysRules) ∧
    (∀ move error, (start.run moves).attempt move = .error error →
      (start.run moves).after move = start.run moves) ∧
    (∀ cells : Cells, cells.game = start.run moves → ∀ move,
      match Cells.attempt move cells with
      | .ok _ after => (start.run moves).attempt move = .ok after.game
      | .error error after => (start.run moves).attempt move = .error error ∧ after = cells) ∧
    ((start.run moves).phase = .finished → ∀ later move, move.IsAction →
      (start.run (moves ++ later)).attempt move = .error .finished) := by
  rcases run_ready opening moves with ⟨distinct, ready⟩
  refine ⟨obeysRules_of_ready distinct ready, ?_, ?_, ?_⟩
  · intro move error refused
    simp [after, refused]
  · intro cells same move
    have tried := Cells.attempt_inPlace cells move
    rw [same] at tried
    cases written : Cells.attempt move cells with
    | ok value later =>
      rw [written] at tried
      exact tried.1
    | error error later =>
      rw [written] at tried
      exact tried
  · intro ended later move action
    apply attempt_of_finished _ action
    rw [run, List.foldl_append]
    exact phase_run_of_finished ended later

/-- Whoever faces an ace without having one may not draw and has to miss the turn; when a hand is
empty after that, the game is over. -/
theorem rules_exact_of_ace :
    ∃ start : Game, start.Opening ∧ (start.run [.play 1 ⟨.hearts, .ace⟩]).phase ≠ .finished ∧
      (¬∃ result, (start.run [.play 1 ⟨.hearts, .ace⟩]).drawCard 2 = .ok result) ∧
      (∃ result, (start.run [.play 1 ⟨.hearts, .ace⟩]).pass 2 = .ok result) ∧
      (start.run [.play 1 ⟨.hearts, .ace⟩, .pass 2, .play 1 ⟨.clubs, .ace⟩]).attempt (.draw 2) =
        .error .finished := by
  have opening := @Opening.position [⟨1, [⟨.hearts, .ace⟩, ⟨.clubs, .ace⟩]⟩,
    ⟨2, [⟨.clubs, .king⟩]⟩] ⟨.hearts, .king⟩ [] [] (by decide)
  refine ⟨_, opening, by decide, ?_, ?_, ?_⟩
  · rw [((rules_exact opening [.play 1 ⟨.hearts, .ace⟩]).1 (by decide)).draw_iff]
    decide
  · rw [((rules_exact opening [.play 1 ⟨.hearts, .ace⟩]).1 (by decide)).pass_iff]
    decide
  · exact (rules_exact opening [.play 1 ⟨.hearts, .ace⟩, .pass 2, .play 1 ⟨.clubs, .ace⟩]).2.2.2
      (by decide) [] (.draw 2) trivial

end CardTable.Game
