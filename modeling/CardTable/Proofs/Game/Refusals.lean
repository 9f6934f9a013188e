import CardTable.Proofs.Game.Run

/-!
# Refused moves

While a game is on, a move of somebody who is seated is refused only for breaking a rule: it is not
the player's turn, or the move does not answer what is on the table.
-/

namespace CardTable

/-- The move breaks a rule of the game; the other errors say that there is no game to move in. -/
def GameError.IsRuleBreach : GameError → Prop
  | notYourTurn _ | cardNotInHand _ | illegalCard _ _ | penaltyPending | nothingToPass => True
  | notEnoughPlayers _ | tooManyPlayers _ | notSeated _ | finished => False

namespace Game

variable {game : Game} {player : PlayerId} {error : GameError}

theorem turnOf_eq_error (on : game.phase ≠ .finished) (seated : player ∈ game.players)
    (refused : game.turnOf player = .error error) : error = .notYourTurn player := by
  rw [turnOf] at refused
  split at refused
  · next ended => exact (on ended).elim
  · split at refused
    · next missing =>
      have found := seatOf?_isSome_iff.2 seated
      simp [missing] at found
    · split at refused
      · cases refused
      · cases refused
        rfl

/-- Whoever may not move at all is told so, whatever the move. -/
theorem attempt_of_error {move : Move} (action : move.IsAction)
    (early : game.turnOf move.player = .error error) : game.attempt move = .error error := by
  cases move with
  | remove player => exact action.elim
  | play player card =>
    dsimp only [Move.player] at early
    rw [attempt, play, early]
    rfl
  | draw player =>
    dsimp only [Move.player] at early
    rw [attempt, drawCard, early]
    rfl
  | pass player =>
    dsimp only [Move.player] at early
    rw [attempt, pass, early]
    rfl

theorem isRuleBreach_of_refused {move : Move} (on : game.phase ≠ .finished)
    (action : move.IsAction) (seated : move.player ∈ game.players)
    (refused : game.attempt move = .error error) : error.IsRuleBreach := by
  cases allowed : game.turnOf move.player with
  | error cause =>
    rw [attempt_of_error action allowed, turnOf_eq_error on seated allowed] at refused
    cases refused
    trivial
  | ok turn =>
    cases move with
    | remove player => exact action.elim
    | play player card =>
      have refused := map_snd_eq_error refused
      dsimp only [Move.player] at allowed
      rw [play_of_turn allowed] at refused
      split at refused
      · cases refused
        trivial
      · split at refused
        · cases refused
          trivial
        · cases refused
    | draw player =>
      have refused := map_snd_eq_error refused
      dsimp only [Move.player] at allowed
      rw [drawCard_of_turn allowed] at refused
      split at refused
      · cases refused
        trivial
      · cases refused
    | pass player =>
      have refused := map_snd_eq_error refused
      dsimp only [Move.player] at allowed
      rw [pass_of_turn allowed] at refused
      split at refused
      · cases refused
        trivial
      · cases refused
      · cases refused

end Game

end CardTable
