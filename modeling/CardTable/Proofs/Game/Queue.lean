import CardTable.Proofs.Game.Dealing

/-!
# The turns as a queue

The players who hold cards wait in a queue, the one on turn at its head. Whoever has acted goes to
the end, or away without cards; whoever leaves is taken out of the queue, and nobody else changes
place. The game is over as soon as at most one player is left in the queue. The file proves that the
place in the list of seats, which is what a game really keeps, follows this queue exactly.
-/

namespace CardTable

/-- The queue after a move; `holds` says whether its player still holds cards. -/
def Move.queueAfter (holds : Bool) (queue : List PlayerId) : Move → List PlayerId
  | .play player _ | .draw player | .pass player =>
    if holds then queue.tail ++ [player] else queue.tail
  | .remove player => queue.erase player

namespace Game

/-- The player holds cards. -/
def holdsCards (game : Game) (player : PlayerId) : Bool :=
  (game.hand? player).any (· ≠ [])

/-- The game is on with this queue; or, with at most one player in the queue, the game is over and
nobody else holds cards. -/
def StandsAt (game : Game) (queue : List PlayerId) : Prop :=
  if queue.length ≤ 1 then
    game.phase = .finished ∧ (inPlay game.seats).map Seat.player = queue
  else game.phase ≠ .finished ∧ game.order = queue

/-- A game before its first move, in which nobody sits twice. -/
inductive Opening : Game → Prop
  | dealt {players : List PlayerId} {wanted : Nat} {chance : Deal} {game : Game}
      (distinct : players.Nodup) (dealt : Game.deal players wanted chance = .ok game) :
      Opening game
  | position {seats : List Seat} (top : Card) (deck : List Card) (recycles : List Shuffle)
      (distinct : (seats.map Seat.player).Nodup) : Opening (ofPosition seats top deck recycles)

/-! ## Players -/

theorem Acts.players {game next : Game} {player : PlayerId} (acts : game.Acts player next) :
    next.players = game.players := by
  rcases acts with ⟨before, behind, seat, hand, _, _, seated, _, _, seats, _, _⟩
  simp [Game.players, seated, seats]

theorem Leaves.players {game next : Game} {player : PlayerId} (distinct : game.players.Nodup)
    (leaves : game.Leaves player next) : next.players = game.players.erase player := by
  rcases leaves with ⟨before, behind, seat, seated, rfl, seats, _, _⟩
  have ahead : seat.player ∉ before.map Seat.player := by
    intro twice
    rw [Game.players, seated, List.map_append, List.nodup_append] at distinct
    exact distinct.2.2 _ twice seat.player (by simp) rfl
  rw [Game.players, Game.players, seated, seats, List.map_append, List.map_append, List.map_cons,
    List.erase_append_right _ ahead, List.erase_cons_head]

theorem distinct_of_attempt {game next : Game} {move : Move} (distinct : game.players.Nodup)
    (accepted : game.attempt move = .ok next) : next.players.Nodup := by
  rcases acts_or_leaves accepted with ⟨-, acts⟩ | ⟨-, leaves⟩
  · rwa [acts.players]
  · rw [leaves.players distinct]
    exact distinct.erase _

theorem hand?_of_mem {game : Game} {seat : Seat} (distinct : game.players.Nodup)
    (member : seat ∈ game.seats) : game.hand? seat.player = some seat.hand := by
  cases found : game.seats.find? fun other => other.player = seat.player with
  | none =>
    have missing := List.find?_eq_none.1 found seat member
    simp at missing
  | some other =>
    have same : other.player = seat.player := by simpa using List.find?_some found
    have equal : other = seat :=
      List.inj_on_of_nodup_map distinct (List.mem_of_find?_eq_some found) member same
    rw [hand?, found, equal]
    rfl

theorem opening_ready {game : Game} (opening : game.Opening) :
    game.players.Nodup ∧ game.Ready := by
  cases opening with
  | dealt distinct dealt =>
    rcases ready_of_deal dealt with ⟨players, ready⟩
    exact ⟨players ▸ distinct, ready⟩
  | position top deck recycles distinct => exact ⟨distinct, ready_ofPosition _ top deck recycles⟩

theorem run_ready {game : Game} (opening : game.Opening) (moves : List Move) :
    (game.run moves).players.Nodup ∧ (game.run moves).Ready := by
  refine run_induction (motive := fun later => later.players.Nodup ∧ later.Ready)
    (opening_ready opening) ?_ moves
  rintro earlier next move ⟨distinct, ready⟩ accepted
  exact ⟨distinct_of_attempt distinct accepted, ready_of_attempt ready accepted⟩

/-! ## The queue of a game -/

theorem order_of_phase {game : Game} {turn : Nat} {pending : Option Effect}
    (onTurn : game.phase = .active turn pending) :
    game.order = (inPlay (ringFrom game.seats turn)).map Seat.player := by
  simp [order, onTurn]

theorem Follows.standsAt {game : Game} {ring : List Seat} (follows : game.Follows ring)
    (perm : ring.Perm game.seats) : game.StandsAt ((inPlay ring).map Seat.player) := by
  have seats : (inPlay ring).Perm (inPlay game.seats) := perm.filter _
  unfold StandsAt
  rw [List.length_map, seats.length_eq]
  cases follows with
  | ended few phase =>
    rw [if_pos few]
    refine ⟨phase, ?_⟩
    -- a list of at most one seat has no other order
    have same : inPlay ring = inPlay game.seats := by
      match inPlay game.seats, few, seats with
      | [], _, seats => exact seats.eq_nil
      | [seat], _, seats => exact List.perm_singleton.1 seats
    rw [same]
  | on place pending two phase holds order =>
    rw [if_neg (by omega), order_of_phase phase, order]
    refine ⟨?_, rfl⟩
    rw [phase]
    simp

theorem not_mem_players_inPlay {seats : List Seat} {player : PlayerId}
    (absent : player ∉ seats.map Seat.player) : player ∉ (inPlay seats).map Seat.player :=
  fun member => absent ((List.filter_sublist.map Seat.player).subset member)

theorem holdsAt_head {seats : List Seat} {turn : Nat} {seat : Seat} {rest : List Seat}
    (holds : holdsAt seats turn) (ring : ringFrom seats turn = seat :: rest) :
    seats[turn]? = some seat ∧ seat.InPlay := by
  have within := lt_length_of_holdsAt holds
  have first : seats[turn]? = some seat := by
    rw [ringFrom, List.drop_eq_getElem_cons within, List.cons_append] at ring
    rw [List.getElem?_eq_getElem within, (List.cons.inj ring).1]
  rw [holdsAt, first] at holds
  exact ⟨first, by simpa using holds⟩

theorem exists_ring {game : Game} {turn : Nat} {pending : Option Effect} (ready : game.Ready)
    (onTurn : game.phase = .active turn pending) :
    ∃ seat rest, ringFrom game.seats turn = seat :: rest ∧ game.seats[turn]? = some seat ∧
      seat.InPlay ∧ game.order = seat.player :: (inPlay rest).map Seat.player := by
  rcases ready turn pending onTurn with ⟨holds, two⟩
  cases ring : ringFrom game.seats turn with
  | nil =>
    rw [← length_inPlay_ringFrom game.seats turn, ring] at two
    simp [inPlay] at two
  | cons seat rest =>
    rcases holdsAt_head holds ring with ⟨first, inPlay⟩
    refine ⟨seat, rest, rfl, first, inPlay, ?_⟩
    rw [order_of_phase onTurn, ring, inPlay_cons, if_pos inPlay, List.map_cons]

theorem currentPlayer?_of_ready {game : Game} {turn : Nat} {pending : Option Effect}
    (ready : game.Ready) (onTurn : game.phase = .active turn pending) :
    game.currentPlayer? = game.order.head? ∧ game.order.head?.isSome ∧ 2 ≤ game.order.length := by
  rcases exists_ring ready onTurn with ⟨seat, rest, ring, first, inPlay, order⟩
  refine ⟨by simp [currentPlayer?, onTurn, first, order], by simp [order], ?_⟩
  rw [order_of_phase onTurn, List.length_map, length_inPlay_ringFrom]
  exact (ready turn pending onTurn).2

/-! ## The queue after a move -/

theorem Acts.standsAt {game next : Game} {player : PlayerId} (ready : game.Ready)
    (distinct : game.players.Nodup) (acts : game.Acts player next) :
    game.currentPlayer? = some player ∧
      next.StandsAt (if next.holdsCards player then game.order.tail ++ [player]
        else game.order.tail) := by
  have same := acts.players
  rcases acts.follows with ⟨turn, pending, seat, hand, rest, onTurn, rfl, ring, perm, follows⟩
  rcases exists_ring ready onTurn with ⟨head, others, ring', -, inPlay, order⟩
  rw [ring] at ring'
  cases ring'
  have member : { seat with hand } ∈ next.seats := perm.mem_iff.2 (by simp)
  have held : next.hand? seat.player = some hand := hand?_of_mem (same ▸ distinct) member
  have stands := follows.standsAt ((List.perm_append_singleton _ _).trans perm.symm)
  refine ⟨by rw [(currentPlayer?_of_ready ready onTurn).1, order]; rfl, ?_⟩
  rw [holdsCards, held, order, List.tail_cons]
  rw [inPlay_append, List.map_append, inPlay_cons] at stands
  by_cases empty : hand = []
  · simpa [empty, Seat.InPlay, Game.inPlay] using stands
  · simpa [empty, Seat.InPlay, Game.inPlay] using stands

theorem Leaves.standsAt {game next : Game} {player : PlayerId} {turn : Nat}
    {pending : Option Effect} (ready : game.Ready) (distinct : game.players.Nodup)
    (onTurn : game.phase = .active turn pending) (leaves : game.Leaves player next) :
    next.StandsAt (game.order.erase player) := by
  have within := lt_length_of_holdsAt (ready turn pending onTurn).1
  have gone := leaves.players distinct
  rcases leaves.follows onTurn within with ⟨front, seat, back, ring, rfl, perm, follows⟩
  have whole : (front ++ seat :: back).Perm game.seats := ring ▸ ringFrom_perm game.seats turn
  have once : (seat.player :: (front ++ back).map Seat.player).Nodup := by
    rw [← List.map_cons]
    exact (((List.perm_middle.symm.trans whole).map Seat.player).nodup_iff).2 distinct
  have absent := (List.nodup_cons.1 once).1
  have order : game.order.erase seat.player = (inPlay (front ++ back)).map Seat.player := by
    rw [List.map_append, List.mem_append, not_or] at absent
    have ahead := not_mem_players_inPlay absent.1
    have behind := not_mem_players_inPlay absent.2
    rw [order_of_phase onTurn, ring, inPlay_append, inPlay_append, inPlay_cons, List.map_append,
      List.map_append, List.erase_append_right _ ahead]
    split
    · rw [List.map_cons, List.erase_cons_head]
    · rw [List.erase_of_not_mem behind]
  rw [order]
  exact follows.standsAt perm.symm

/-- The machine of places refines the queue of players. -/
theorem turns_follow_queue {start : Game} (opening : start.Opening) (moves : List Move) {turn : Nat}
    {pending : Option Effect} (onTurn : (start.run moves).phase = .active turn pending) :
    (∃ seat, (start.run moves).seats[turn]? = some seat ∧ seat.hand ≠ []) ∧
      2 ≤ (start.run moves).order.length ∧
      (∃ player, (start.run moves).currentPlayer? = some player ∧
        (start.run moves).order.head? = some player) ∧
      ∀ move, match (start.run moves).attempt move with
        | .ok next =>
          (move.IsAction → (start.run moves).order.head? = some move.player) ∧
            next.StandsAt (move.queueAfter (next.holdsCards move.player) (start.run moves).order)
        | .error _ => (start.run moves).after move = start.run moves := by
  rcases run_ready opening moves with ⟨distinct, ready⟩
  rcases exists_ring ready onTurn with ⟨seat, rest, -, first, inPlay, order⟩
  rcases currentPlayer?_of_ready ready onTurn with ⟨current, -, two⟩
  refine ⟨⟨seat, first, inPlay⟩, two, ⟨seat.player, by simp [current, order], by simp [order]⟩, ?_⟩
  intro move
  split
  · next next accepted =>
    rcases acts_or_leaves accepted with ⟨action, acts⟩ | ⟨leaving, leaves⟩
    · rcases acts.standsAt ready distinct with ⟨head, stands⟩
      refine ⟨fun _ => current ▸ head, ?_⟩
      cases move with
      | remove player => exact action.elim
      | play | draw | pass => exact stands
    · refine ⟨fun action => (leaving action).elim, ?_⟩
      cases move with
      | remove player => exact leaves.standsAt ready distinct onTurn
      | play | draw | pass => exact (leaving trivial).elim
  · next refused => simp [after, refused]

/-- A draw brings the turn past an empty hand to the third seat. -/
theorem turns_follow_queue_past_empty_hand :
    ∃ start : Game, start.Opening ∧ (start.run [.draw 1]).phase = .active 2 none ∧
      (start.run [.draw 1]).order = [3, 1] ∧ 2 ≤ (start.run [.draw 1]).order.length := by
  have opening := @Opening.position [⟨1, [⟨.hearts, .king⟩]⟩, ⟨2, []⟩, ⟨3, [⟨.clubs, .ace⟩]⟩]
    ⟨.hearts, .ace⟩ [⟨.clubs, .nine⟩] [] (by decide)
  exact ⟨_, opening, rfl, rfl, (turns_follow_queue opening [.draw 1] rfl).2.1⟩

end Game

end CardTable
