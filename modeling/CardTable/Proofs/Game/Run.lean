import CardTable.Game.Moves

/-!
# Runs of moves

A run is any list of moves, accepted or refused. The file says once what an accepted move does to a
game: either the player on turn acts, or somebody leaves. What is proved of runs is derived from
these two descriptions and from the closed forms of the moves.
-/

namespace CardTable

/-- What somebody tries to do in a game. -/
inductive Move
  | play (player : PlayerId) (card : Card)
  | draw (player : PlayerId)
  | pass (player : PlayerId)
  | remove (player : PlayerId)
  deriving DecidableEq, Repr

namespace Move

/-- Whom the move is about. -/
def player : Move → PlayerId
  | play player _ | draw player | pass player | remove player => player

/-- The move is one that a player makes on turn. -/
def IsAction : Move → Prop
  | remove _ => False
  | _ => True

end Move

namespace Game

/-- The game after a move, or why the move is refused. -/
def attempt (game : Game) : Move → Except GameError Game
  | .play player card => (game.play player card).map Prod.snd
  | .draw player => (game.drawCard player).map Prod.snd
  | .pass player => (game.pass player).map Prod.snd
  | .remove player => game.remove player

/-- The game after somebody tried a move; a refused one changes nothing. -/
def after (game : Game) (move : Move) : Game :=
  match game.attempt move with
  | .ok next => next
  | .error _ => game

/-- The game after several moves. -/
def run (game : Game) (moves : List Move) : Game :=
  moves.foldl after game

/-- What every accepted move keeps holds throughout a run. -/
theorem run_induction {motive : Game → Prop} {game : Game} (start : motive game)
    (kept : ∀ {earlier next : Game} {move : Move}, motive earlier →
      earlier.attempt move = .ok next → motive next)
    (moves : List Move) : motive (game.run moves) := by
  induction moves generalizing game with
  | nil => exact start
  | cons move moves ih =>
    refine ih ?_
    unfold after
    split
    · next accepted => exact kept start accepted
    · exact start

/-! ## Seats -/

theorem seatOf?_eq_some {seats : List Seat} {player : PlayerId} {place : Nat}
    (found : seatOf? seats player = some place) :
    ∃ before seat behind, seats = before ++ seat :: behind ∧ before.length = place ∧
      seat.player = player ∧ ∀ other ∈ before, other.player ≠ player := by
  rcases List.findIdx?_eq_some_iff_getElem.1 found with ⟨within, same, earlier⟩
  refine ⟨seats.take place, seats[place], seats.drop (place + 1), ?_, ?_, ?_, ?_⟩
  · simp
  · simp only [List.length_take]
    omega
  · simpa using same
  · intro other ahead
    rcases List.mem_take_iff_getElem.1 ahead with ⟨index, inside, rfl⟩
    simpa using earlier index (by omega)

theorem seatOf?_isSome_iff {seats : List Seat} {player : PlayerId} :
    (seatOf? seats player).isSome ↔ player ∈ seats.map Seat.player := by
  simp [seatOf?, List.findIdx?_isSome]

@[simp]
theorem handAt_append (before behind : List Seat) (seat : Seat) :
    handAt (before ++ seat :: behind) before.length = seat.hand := by
  simp [handAt]

@[simp]
theorem changeHand_append (before behind : List Seat) (seat : Seat)
    (change : List Card → List Card) :
    changeHand (before ++ seat :: behind) before.length change =
      before ++ { seat with hand := change seat.hand } :: behind := by
  induction before with
  | nil => rfl
  | cons first before ih => simpa [changeHand] using ih

theorem turnOf_eq_ok_iff {game : Game} {player : PlayerId} {turn : Turn} :
    game.turnOf player = .ok turn ↔
      game.phase = .active turn.place turn.pending ∧
        seatOf? game.seats player = some turn.place := by
  constructor
  · intro allowed
    unfold turnOf at allowed
    split at allowed
    · cases allowed
    · next place pending on =>
      split at allowed
      · cases allowed
      · next found =>
        split at allowed
        · next same =>
          cases allowed
          exact ⟨by rw [on, same], found⟩
        · cases allowed
  · rintro ⟨on, found⟩
    simp [turnOf, on, found]

/-! ## Outcomes -/

section Outcomes

variable {ε α β : Type}

theorem bind_eq_ok {outcome : Except ε α} {next : α → Except ε β} {result : β}
    (done : outcome >>= next = .ok result) : ∃ value, outcome = .ok value ∧ next value = .ok result := by
  cases outcome with
  | error error => cases done
  | ok value => exact ⟨value, rfl, done⟩

theorem map_snd_eq_ok {outcome : Except ε (α × β)} {result : β}
    (mapped : outcome.map Prod.snd = .ok result) : ∃ value, outcome = .ok (value, result) := by
  cases outcome with
  | error error => cases mapped
  | ok both =>
    cases mapped
    exact ⟨both.1, rfl⟩

theorem map_snd_eq_error {outcome : Except ε (α × β)} {error : ε}
    (mapped : outcome.map Prod.snd = .error error) : outcome = .error error := by
  cases outcome with
  | error _ =>
    cases mapped
    rfl
  | ok _ => cases mapped

end Outcomes

/-! ## The moves in closed form -/

section ClosedForms

variable {game : Game} {player : PlayerId} {card : Card} {turn : Turn}

/-- The game once a card is on top. -/
def laid (game : Game) (turn : Turn) (player : PlayerId) (card : Card) : Game where
  seats := changeHand game.seats turn.place (·.erase card)
  top := card
  stock := game.stock.discard game.top
  phase := advance (changeHand game.seats turn.place (·.erase card)) turn.place
    (effectOf card turn.pending)
  leaderboard :=
    if (handAt game.seats turn.place).erase card = [] then game.leaderboard ++ [player]
    else game.leaderboard

theorem play_of_turn (allowed : game.turnOf player = .ok turn) :
    game.play player card =
      if card ∉ handAt game.seats turn.place then .error (.cardNotInHand card)
      else if ¬MayPlay turn.pending game.top card then .error (.illegalCard card game.top)
      else .ok ({
          emptiedHand := (handAt game.seats turn.place).erase card = []
          finished := (game.laid turn player card).isFinished },
        game.laid turn player card) := by
  rw [play, allowed]
  simp only [bind, Except.bind]
  split
  · rfl
  · split <;> rfl

theorem drawCard_of_turn (allowed : game.turnOf player = .ok turn) :
    game.drawCard player =
      match turn.pending with
      | some _ => .error .penaltyPending
      | none => .ok (game.drawFor turn.place 1) := by
  rw [drawCard, allowed]
  rfl

theorem pass_of_turn (allowed : game.turnOf player = .ok turn) :
    game.pass player =
      match turn.pending with
      | none => .error .nothingToPass
      | some .skip =>
        .ok (.skipped, { game with phase := advance game.seats turn.place none })
      | some (.draw count) =>
        .ok (.drew (game.drawFor turn.place count).1, (game.drawFor turn.place count).2) := by
  rw [pass, allowed]
  rfl

theorem play_eq_ok {next : Game} {played : Played}
    (accepted : game.play player card = .ok (played, next)) :
    ∃ turn, game.turnOf player = .ok turn ∧ card ∈ handAt game.seats turn.place ∧
      MayPlay turn.pending game.top card ∧ next = game.laid turn player card ∧
      played.finished = next.isFinished := by
  rcases bind_eq_ok accepted with ⟨turn, allowed, -⟩
  rw [play_of_turn allowed] at accepted
  split at accepted
  · cases accepted
  · next held =>
    split at accepted
    · cases accepted
    · next legal =>
      cases accepted
      exact ⟨turn, allowed, Decidable.not_not.1 held, Decidable.not_not.1 legal, rfl, rfl⟩

theorem drawCard_eq_ok {next : Game} {cards : List Card}
    (accepted : game.drawCard player = .ok (cards, next)) :
    ∃ turn, game.turnOf player = .ok turn ∧ turn.pending = none ∧
      game.drawFor turn.place 1 = (cards, next) := by
  rcases bind_eq_ok accepted with ⟨turn, allowed, -⟩
  rw [drawCard_of_turn allowed] at accepted
  split at accepted
  · cases accepted
  · next free =>
    cases accepted
    exact ⟨turn, allowed, free, rfl⟩

theorem pass_eq_ok {next : Game} {passed : Passed}
    (accepted : game.pass player = .ok (passed, next)) :
    ∃ turn, game.turnOf player = .ok turn ∧
      (turn.pending = some .skip ∧
          next = { game with phase := advance game.seats turn.place none } ∨
        ∃ count, turn.pending = some (.draw count) ∧
          next = (game.drawFor turn.place count).2) := by
  rcases bind_eq_ok accepted with ⟨turn, allowed, -⟩
  rw [pass_of_turn allowed] at accepted
  split at accepted
  · cases accepted
  · next skip =>
    cases accepted
    exact ⟨turn, allowed, .inl ⟨skip, rfl⟩⟩
  · next count due =>
    cases accepted
    exact ⟨turn, allowed, .inr ⟨count, due, rfl⟩⟩

theorem pass_eq_drew {next : Game} {cards : List Card}
    (accepted : game.pass player = .ok (.drew cards, next)) :
    ∃ turn count, game.turnOf player = .ok turn ∧ turn.pending = some (.draw count) ∧
      game.drawFor turn.place count = (cards, next) := by
  rcases bind_eq_ok accepted with ⟨turn, allowed, -⟩
  rw [pass_of_turn allowed] at accepted
  split at accepted
  · cases accepted
  · cases accepted
  · next count due =>
    cases accepted
    exact ⟨turn, count, allowed, due, rfl⟩

end ClosedForms

/-! ## What an accepted move does -/

/-- The player on turn does something to the hand, and the turn goes on. -/
inductive Acts (game : Game) (player : PlayerId) (next : Game) : Prop
  | intro (before behind : List Seat) (seat : Seat) (hand : List Card)
      (pending answer : Option Effect)
      (seated : game.seats = before ++ seat :: behind)
      (owner : seat.player = player)
      (onTurn : game.phase = .active before.length pending)
      (seats : next.seats = before ++ { seat with hand } :: behind)
      (phase : next.phase = advance next.seats before.length answer)
      (cards : (next.stock.cards ++ next.top :: hand).Perm
        (game.stock.cards ++ game.top :: seat.hand))

/-- A player is gone, and the hand with the player. -/
inductive Leaves (game : Game) (player : PlayerId) (next : Game) : Prop
  | intro (before behind : List Seat) (seat : Seat)
      (seated : game.seats = before ++ seat :: behind)
      (owner : seat.player = player)
      (seats : next.seats = before ++ behind)
      (phase : next.phase = match game.phase with
        | .finished => .finished
        | .active turn pending =>
          settle next.seats (turnWithout before.length turn next.seats.length) pending)
      (cards : (next.stock.cards ++ [next.top]).Perm
        (game.stock.cards ++ game.top :: seat.hand))

theorem cards_discard_perm (stock : Stock) (top card : Card) {hand : List Card}
    (held : card ∈ hand) :
    ((stock.discard top).cards ++ card :: hand.erase card).Perm (stock.cards ++ top :: hand) := by
  have regrouped := List.perm_cons_erase held
  calc ((stock.discard top).cards ++ card :: hand.erase card).Perm
        ((stock.deck ++ top :: stock.pile) ++ hand) := regrouped.symm.append_left _
    _ |>.Perm (top :: (stock.deck ++ stock.pile) ++ hand) := List.perm_middle.append_right _
    _ |>.Perm (stock.cards ++ top :: hand) := List.perm_middle.symm

theorem cards_putUnder_perm (stock : Stock) (top : Card) (hand : List Card) :
    ((stock.putUnder hand).cards ++ [top]).Perm (stock.cards ++ top :: hand) := by
  refine List.perm_iff_count.2 fun card => ?_
  simp only [Stock.cards, Stock.putUnder, List.count_append, List.count_reverse, List.count_cons]
  simp only [List.count_nil]
  omega

theorem acts_drawFor {game : Game} {before behind : List Seat} {seat : Seat}
    {pending : Option Effect} (seated : game.seats = before ++ seat :: behind)
    (onTurn : game.phase = .active before.length pending) (count : Nat) :
    game.Acts seat.player (game.drawFor before.length count).2 := by
  refine .intro before behind seat (seat.hand ++ (game.stock.draw count).1) pending none seated rfl
    onTurn ?_ rfl ?_
  · simp [drawFor, seated]
  · refine List.perm_iff_count.2 fun card => ?_
    have drawn := (game.stock.draw_perm count).count_eq card
    simp only [drawFor, List.count_append, List.count_cons] at drawn ⊢
    omega

theorem acts_of_play {game next : Game} {player : PlayerId} {card : Card} {played : Played}
    (accepted : game.play player card = .ok (played, next)) : game.Acts player next := by
  rcases play_eq_ok accepted with ⟨turn, allowed, held, -, rfl, -⟩
  rcases turnOf_eq_ok_iff.1 allowed with ⟨onTurn, found⟩
  rcases seatOf?_eq_some found with ⟨before, seat, behind, seated, place, owner, -⟩
  rw [seated, ← place, handAt_append] at held
  rw [← place] at onTurn
  refine .intro before behind seat (seat.hand.erase card) turn.pending _ seated owner onTurn ?_
    (by rw [place]; rfl) (cards_discard_perm game.stock game.top card held)
  simp [laid, seated, ← place]

theorem acts_of_drawCard {game next : Game} {player : PlayerId} {cards : List Card}
    (accepted : game.drawCard player = .ok (cards, next)) : game.Acts player next := by
  rcases drawCard_eq_ok accepted with ⟨turn, allowed, -, drawn⟩
  rcases turnOf_eq_ok_iff.1 allowed with ⟨onTurn, found⟩
  rcases seatOf?_eq_some found with ⟨before, seat, behind, seated, place, rfl, -⟩
  rw [← place] at onTurn drawn
  have acts := acts_drawFor seated onTurn 1
  rwa [drawn] at acts

theorem acts_of_pass {game next : Game} {player : PlayerId} {passed : Passed}
    (accepted : game.pass player = .ok (passed, next)) : game.Acts player next := by
  rcases pass_eq_ok accepted with ⟨turn, allowed, effect⟩
  rcases turnOf_eq_ok_iff.1 allowed with ⟨onTurn, found⟩
  rcases seatOf?_eq_some found with ⟨before, seat, behind, seated, place, rfl, -⟩
  rw [← place] at onTurn effect
  rcases effect with ⟨-, rfl⟩ | ⟨count, -, rfl⟩
  · exact .intro before behind seat seat.hand turn.pending none seated rfl onTurn seated rfl
      (List.Perm.refl _)
  · exact acts_drawFor seated onTurn count

theorem acts_of_attempt {game next : Game} {move : Move} (action : move.IsAction)
    (accepted : game.attempt move = .ok next) : game.Acts move.player next := by
  cases move with
  | play player card =>
    rcases map_snd_eq_ok accepted with ⟨played, accepted⟩
    exact acts_of_play accepted
  | draw player =>
    rcases map_snd_eq_ok accepted with ⟨cards, accepted⟩
    exact acts_of_drawCard accepted
  | pass player =>
    rcases map_snd_eq_ok accepted with ⟨passed, accepted⟩
    exact acts_of_pass accepted
  | remove player => exact action.elim

theorem leaves_of_remove {game next : Game} {player : PlayerId}
    (accepted : game.remove player = .ok next) : game.Leaves player next := by
  unfold remove at accepted
  split at accepted
  · cases accepted
  · next left found =>
    rcases seatOf?_eq_some found with ⟨before, seat, behind, seated, place, owner, -⟩
    have rest : game.seats.eraseIdx left = before ++ behind := by
      rw [seated, ← place, List.eraseIdx_append_of_length_le (by simp)]
      simp
    cases accepted
    refine .intro before behind seat seated owner rest (by subst place; rfl) ?_
    have hand : handAt game.seats left = seat.hand := by rw [seated, ← place, handAt_append]
    simp only [hand]
    exact cards_putUnder_perm game.stock game.top seat.hand

theorem exists_remove {game : Game} {player : PlayerId} (seated : player ∈ game.players) :
    ∃ next, game.remove player = .ok next := by
  cases found : seatOf? game.seats player with
  | none =>
    have known := seatOf?_isSome_iff.2 seated
    simp [found] at known
  | some left => exact ⟨_, by rw [remove, found]⟩

/-- Every accepted move is an action of its player on turn or the leaving of its player. -/
theorem acts_or_leaves {game next : Game} {move : Move} (accepted : game.attempt move = .ok next) :
    move.IsAction ∧ game.Acts move.player next ∨
      ¬move.IsAction ∧ game.Leaves move.player next := by
  cases move with
  | remove player => exact .inr ⟨id, leaves_of_remove accepted⟩
  | play | draw | pass => exact .inl ⟨trivial, acts_of_attempt trivial accepted⟩

end Game

end CardTable
