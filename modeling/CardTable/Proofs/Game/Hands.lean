import CardTable.Proofs.Game.Queue

/-!
# Hands

How the hands change: an action changes just the hand of whoever acts, and a player who leaves takes
along no hand but the own one.
-/

namespace CardTable.Game

variable {game next : Game} {player : PlayerId} {place : Nat}

theorem exists_hand (member : player ∈ game.players) :
    ∃ seat ∈ game.seats, game.hand? player = some seat.hand := by
  rcases List.mem_map.1 member with ⟨seat, here, rfl⟩
  cases found : game.seats.find? fun other => other.player = seat.player with
  | none =>
    have missing := List.find?_eq_none.1 found seat here
    simp at missing
  | some other => exact ⟨other, List.mem_of_find?_eq_some found, by rw [hand?, found]; rfl⟩

theorem hand?_of_seatOf? (found : seatOf? game.seats player = some place) :
    game.hand? player = some (handAt game.seats place) := by
  rcases seatOf?_eq_some found with ⟨before, seat, behind, seated, length, owner, earlier⟩
  have unfound : before.find? (fun seat => seat.player = player) = none := by
    apply List.find?_eq_none.2
    simpa using earlier
  rw [seated, ← length, handAt_append, hand?, seated, List.find?_append, unfound]
  simp [owner]

/-- A change of one hand changes the hand of its player, and nobody else's. -/
theorem hand?_changeHand (found : seatOf? game.seats player = some place)
    {change : List Card → List Card} (seats : next.seats = changeHand game.seats place change)
    (asked : PlayerId) :
    next.hand? asked =
      if asked = player then (game.hand? player).map change else game.hand? asked := by
  rcases seatOf?_eq_some found with ⟨before, seat, behind, seated, rfl, owner, earlier⟩
  rw [seated, changeHand_append] at seats
  have unfound : before.find? (fun seat => seat.player = player) = none := by
    apply List.find?_eq_none.2
    simpa using earlier
  rw [hand?, hand?, hand?, seats, seated]
  split
  · next same =>
    subst same
    rw [List.find?_append, List.find?_append, unfound]
    simp [owner]
  · next other =>
    have apart : ¬seat.player = asked := fun same => other (same.symm.trans owner)
    rw [List.find?_append, List.find?_append]
    simp [apart]

theorem hand?_of_play {card : Card} {played : Played}
    (accepted : game.play player card = .ok (played, next)) (asked : PlayerId) :
    next.hand? asked =
      if asked = player then (game.hand? player).map (·.erase card) else game.hand? asked := by
  rcases play_eq_ok accepted with ⟨turn, allowed, _, _, rfl, _⟩
  exact hand?_changeHand (turnOf_eq_ok_iff.1 allowed).2 rfl asked

theorem hand?_of_drawFor (found : seatOf? game.seats player = some place) (count : Nat)
    (asked : PlayerId) :
    (game.drawFor place count).2.hand? asked =
      if asked = player then (game.hand? player).map (· ++ (game.drawFor place count).1)
      else game.hand? asked :=
  hand?_changeHand found rfl asked

theorem hand?_of_drawCard {cards : List Card}
    (accepted : game.drawCard player = .ok (cards, next)) (asked : PlayerId) :
    next.hand? asked =
      if asked = player then (game.hand? player).map (· ++ cards) else game.hand? asked := by
  rcases drawCard_eq_ok accepted with ⟨turn, allowed, _, drawn⟩
  have hands := hand?_of_drawFor (turnOf_eq_ok_iff.1 allowed).2 1 asked
  rwa [drawn] at hands

/-- Whoever gives in misses the turn and keeps the hand, or draws. -/
theorem hand?_of_pass {passed : Passed} (accepted : game.pass player = .ok (passed, next))
    (asked : PlayerId) :
    next.hand? asked =
      match passed with
      | .skipped => game.hand? asked
      | .drew cards =>
        if asked = player then (game.hand? player).map (· ++ cards) else game.hand? asked := by
  rcases bind_eq_ok accepted with ⟨turn, allowed, -⟩
  rw [pass_of_turn allowed] at accepted
  split at accepted
  · cases accepted
  · cases accepted
    rfl
  · cases accepted
    exact hand?_of_drawFor (turnOf_eq_ok_iff.1 allowed).2 _ asked

/-- The hands of those who stay are their own. -/
theorem hand?_of_remove (removed : game.remove player = .ok next) {asked : PlayerId}
    (other : asked ≠ player) : next.hand? asked = game.hand? asked := by
  rcases leaves_of_remove removed with ⟨before, behind, seat, seated, owner, seats, _, _⟩
  have apart : ¬seat.player = asked := fun same => other (same.symm.trans owner)
  rw [hand?, hand?, seats, seated, List.find?_append, List.find?_append]
  simp [apart]

end CardTable.Game
