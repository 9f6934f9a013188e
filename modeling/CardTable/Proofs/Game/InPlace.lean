import CardTable.Proofs.Game.Run

/-!
# Games in place

A game can also be kept in cells that a move writes one after the other, where a refusal may come
after the first write. The file follows the cells through every move and proves that they end up
as the game does: an accepted move leaves the game that it leads to, with nothing pending once it is
over, and a refused one leaves every cell as it was, also where something was written before the
refusal.
-/

namespace CardTable

/-- The cells of a game. The place on turn stays written when the game is over. -/
structure Cells where
  seats : List Seat
  top : Card
  stock : Stock
  turn : Nat
  pending : Option Effect
  ended : Bool
  leaderboard : List PlayerId

/-- Something that reads and writes cells, and may be refused on the way. -/
abbrev InPlace := EStateM GameError Cells

/-! ## Running writes -/

section Running

variable {ε σ α β : Type} {before after : σ} {error : ε}

theorem bind_of_ok {action : EStateM ε σ α} {next : α → EStateM ε σ β} {value : α}
    (done : action before = .ok value after) : (action >>= next) before = next value after := by
  simp only [bind, EStateM.bind, done]

theorem bind_of_error {action : EStateM ε σ α} {next : α → EStateM ε σ β}
    (refused : action before = .error error after) :
    (action >>= next) before = .error error after := by
  simp only [bind, EStateM.bind, refused]

theorem get_eq (before : σ) : (get : EStateM ε σ σ) before = .ok before before := rfl

theorem modify_eq (before : σ) (change : σ → σ) :
    (modify change : EStateM ε σ Unit) before = .ok () (change before) := rfl

end Running

namespace Cells

/-- The game that the cells hold. -/
def game (cells : Cells) : Game where
  seats := cells.seats
  top := cells.top
  stock := cells.stock
  phase := if cells.ended then .finished else .active cells.turn cells.pending
  leaderboard := cells.leaderboard

/-- Nothing is left pending in the cells of a game that is over. -/
def Tidy (cells : Cells) : Prop :=
  cells.ended = true → cells.pending = none

/-! ## The moves, write by write -/

def demand (condition : Prop) [Decidable condition] (error : GameError) : InPlace Unit :=
  if condition then pure () else throw error

/-- The place of a player's seat. -/
def seatOf (player : PlayerId) : InPlace Nat := do
  match Game.seatOf? (← get).seats player with
  | some place => return place
  | none => throw (.notSeated player)

/-- The place of the player who may act. -/
def ensureTurn (player : PlayerId) : InPlace Nat := do
  demand (¬(← get).ended) .finished
  let place ← seatOf player
  demand (place = (← get).turn) (.notYourTurn player)
  return place

def finish (cells : Cells) : Cells :=
  if cells.ended then cells else { cells with ended := true, pending := none }

/-- The next seat is on turn, or the game is over. -/
def advance (cells : Cells) : Cells :=
  if (Game.inPlay cells.seats).length ≤ 1 then cells.finish
  else { cells with turn := Game.nextPlace cells.seats cells.turn }

/-- The turn leaves a seat that holds no cards, or the game is over. -/
def settle (cells : Cells) : Cells :=
  if (Game.inPlay cells.seats).length ≤ 1 then cells.finish
  else if Game.holdsAt cells.seats cells.turn then cells
  else { cells with turn := Game.nextPlace cells.seats cells.turn }

/-- The place on turn, once the seat at `left` is gone. -/
def closeUp (left : Nat) (cells : Cells) : Cells :=
  if left < cells.turn then { cells with turn := cells.turn - 1 }
  else if left = cells.turn ∧ cells.seats ≠ [] then
    { cells with turn := left % cells.seats.length }
  else cells

def changeHand (place : Nat) (change : List Card → List Card) : InPlace Unit := modify fun cells =>
  { cells with seats := Game.changeHand cells.seats place change }

/-- Moves cards from the stock into a hand. -/
def drawInto (place count : Nat) : InPlace (List Card) := do
  let drawn := (← get).stock.draw count
  modify fun cells => { cells with stock := drawn.2 }
  changeHand place (· ++ drawn.1)
  return drawn.1

/-- Puts a card that may be played on top. -/
def lay (place : Nat) (player : PlayerId) (card : Card) : InPlace Played := do
  changeHand place (·.erase card)
  modify fun cells => { cells with stock := cells.stock.discard cells.top }
  modify fun cells => { cells with top := card }
  modify fun cells => { cells with pending := Game.effectOf card cells.pending }
  let emptied := decide (Game.handAt (← get).seats place = [])
  modify fun cells => { cells with
    leaderboard := if emptied then cells.leaderboard ++ [player] else cells.leaderboard }
  modify advance
  return { emptiedHand := emptied, finished := (← get).ended }

def play (player : PlayerId) (card : Card) : InPlace Played := do
  let place ← ensureTurn player
  demand (card ∈ Game.handAt (← get).seats place) (.cardNotInHand card)
  demand (Game.MayPlay (← get).pending (← get).top card) (.illegalCard card (← get).top)
  lay place player card

def draw (player : PlayerId) : InPlace (List Card) := do
  let place ← ensureTurn player
  demand ((← get).pending = none) .penaltyPending
  let cards ← drawInto place 1
  modify advance
  return cards

/-- Takes away what is pending, and says what it was. -/
def takePending : InPlace (Option Effect) := do
  let due := (← get).pending
  modify fun cells => { cells with pending := none }
  return due

/-- Gives in. What is pending is taken away before anybody looks whether there is something. -/
def pass (player : PlayerId) : InPlace Passed := do
  let place ← ensureTurn player
  match ← takePending with
  | none => throw .nothingToPass
  | some .skip =>
    modify advance
    return .skipped
  | some (.draw count) =>
    let cards ← drawInto place count
    modify advance
    return .drew cards

def remove (player : PlayerId) : InPlace Unit := do
  let left ← seatOf player
  let hand := Game.handAt (← get).seats left
  modify fun cells => { cells with seats := cells.seats.eraseIdx left }
  modify fun cells => { cells with stock := cells.stock.putUnder hand }
  if (← get).ended then return
  modify (closeUp left)
  modify settle

/-- A move that is tried in place. -/
def attempt : Move → InPlace Unit
  | .play player card => do let _ ← play player card
  | .draw player => do let _ ← draw player
  | .pass player => do let _ ← pass player
  | .remove player => remove player

/-! ## Agreement -/

/-- A move in place agrees with a move: if it is accepted, its value and the game in the cells are
those of the move, and tidy cells stay tidy; if it is refused, it is refused for the same reason,
with every cell as it was. -/
def Agrees {α : Type} (cells : Cells) (outcome : Except GameError (α × Game)) :
    EStateM.Result GameError Cells α → Prop
  | .ok value after => outcome = .ok (value, after.game) ∧ (cells.Tidy → after.Tidy)
  | .error error after => outcome = .error error ∧ after = cells

variable {cells : Cells} {player : PlayerId} {turn : Game.Turn}

theorem agrees_of_game {α : Type} {value : α} {after : Cells} {next : Game}
    (same : after.game = next) (tidy : cells.Tidy → after.Tidy) :
    cells.Agrees (.ok (value, next)) (.ok value after) :=
  ⟨by rw [same], tidy⟩

theorem agrees_of_error {α : Type} (error : GameError) :
    cells.Agrees (.error error : Except GameError (α × Game)) (.error error cells) :=
  ⟨rfl, rfl⟩

theorem demand_of (error : GameError) {condition : Prop} [Decidable condition] (met : condition) :
    demand condition error cells = .ok () cells := by
  rw [demand, if_pos met]
  rfl

theorem demand_of_not (error : GameError) {condition : Prop} [Decidable condition]
    (unmet : ¬condition) : demand condition error cells = .error error cells := by
  rw [demand, if_neg unmet]
  rfl

theorem seatOf_of_some {place : Nat} (found : Game.seatOf? cells.seats player = some place) :
    seatOf player cells = .ok place cells := by
  rw [seatOf, bind_of_ok (get_eq cells), found]
  rfl

theorem seatOf_of_none (missing : Game.seatOf? cells.seats player = none) :
    seatOf player cells = .error (.notSeated player) cells := by
  rw [seatOf, bind_of_ok (get_eq cells), missing]
  rfl

theorem ensureTurn_eq (cells : Cells) (player : PlayerId) :
    ensureTurn player cells = match cells.game.turnOf player with
      | .ok turn => .ok turn.place cells
      | .error error => .error error cells := by
  rw [ensureTurn, bind_of_ok (get_eq cells)]
  cases ended : cells.ended with
  | true =>
    rw [bind_of_error (demand_of_not _ (by simp))]
    simp [Game.turnOf, game, ended]
  | false =>
    rw [bind_of_ok (demand_of _ (by simp))]
    cases found : Game.seatOf? cells.seats player with
    | none =>
      rw [bind_of_error (seatOf_of_none found)]
      simp [Game.turnOf, game, ended, found]
    | some place =>
      rw [bind_of_ok (seatOf_of_some found), bind_of_ok (get_eq cells)]
      by_cases same : place = cells.turn
      · rw [bind_of_ok (demand_of _ same)]
        simp [Game.turnOf, game, ended, found, same, pure, EStateM.pure]
      · rw [bind_of_error (demand_of_not _ same)]
        simp [Game.turnOf, game, ended, found, same]

theorem turn_of_turnOf (allowed : cells.game.turnOf player = .ok turn) :
    cells.ended = false ∧ cells.turn = turn.place ∧ cells.pending = turn.pending := by
  have onTurn := (Game.turnOf_eq_ok_iff.1 allowed).1
  cases ended : cells.ended with
  | true => simp [game, ended] at onTurn
  | false => simpa [game, ended] using onTurn

/-- What is pending in tidy cells is what is pending in their game. -/
theorem pending_game (tidy : cells.Tidy) : cells.game.pending = cells.pending := by
  cases ended : cells.ended with
  | true => simp [Game.pending, game, ended, tidy ended]
  | false => simp [Game.pending, game, ended]

theorem tidy_of_on (on : cells.ended = false) : cells.Tidy := by
  intro ended
  rw [on] at ended
  cases ended

theorem finish_of_on (on : cells.ended = false) :
    cells.finish = { cells with ended := true, pending := none } := by
  simp [finish, on]

/-- A game that ends takes what is pending along. -/
theorem tidy_finish (on : cells.ended = false) : cells.finish.Tidy := by
  rw [finish_of_on on]
  exact fun _ => rfl

theorem tidy_advance (on : cells.ended = false) : cells.advance.Tidy := by
  unfold advance
  split
  · exact tidy_finish on
  · exact tidy_of_on on

theorem tidy_settle (on : cells.ended = false) : cells.settle.Tidy := by
  unfold settle
  split
  · exact tidy_finish on
  · split <;> exact tidy_of_on on

theorem game_advance (cells : Cells) (on : cells.ended = false) :
    cells.advance.game =
      { cells.game with phase := Game.advance cells.seats cells.turn cells.pending } := by
  simp only [advance, Game.advance, finish_of_on on]
  split <;> simp [game, on]

theorem game_settle (cells : Cells) (on : cells.ended = false) :
    cells.settle.game =
      { cells.game with phase := Game.settle cells.seats cells.turn cells.pending } := by
  simp only [settle, Game.settle, finish_of_on on]
  split
  · simp [game]
  · split <;> simp [game, on]

theorem closeUp_eq (left : Nat) (cells : Cells) :
    cells.closeUp left =
      { cells with turn := Game.turnWithout left cells.turn cells.seats.length } := by
  simp only [closeUp, Game.turnWithout]
  split
  · rfl
  · by_cases same : left = cells.turn
    · by_cases empty : cells.seats = []
      · have none_left : left % cells.seats.length = left := by simp [empty]
        rw [if_neg (by simp [empty]), if_pos same, none_left, same]
      · simp [same, empty]
    · simp [same]

theorem handAt_changeHand (seats : List Seat) (place : Nat) (card : Card) :
    Game.handAt (Game.changeHand seats place (·.erase card)) place =
      (Game.handAt seats place).erase card := by
  simp only [Game.handAt, Game.changeHand, List.getElem?_modify_eq]
  cases seats[place]? <;> simp

/-- The cells with a card on top, before the turn goes on. -/
def topped (cells : Cells) (place : Nat) (player : PlayerId) (card : Card) : Cells where
  seats := Game.changeHand cells.seats place (·.erase card)
  top := card
  stock := cells.stock.discard cells.top
  turn := cells.turn
  pending := Game.effectOf card cells.pending
  ended := cells.ended
  leaderboard :=
    if (Game.handAt cells.seats place).erase card = [] then cells.leaderboard ++ [player]
    else cells.leaderboard

theorem lay_eq (cells : Cells) (place : Nat) (player : PlayerId) (card : Card) :
    lay place player card cells = .ok {
        emptiedHand := (Game.handAt cells.seats place).erase card = []
        finished := (cells.topped place player card).advance.ended }
      (cells.topped place player card).advance := by
  rw [lay, changeHand, bind_of_ok (modify_eq _ _), bind_of_ok (modify_eq _ _),
    bind_of_ok (modify_eq _ _), bind_of_ok (modify_eq _ _), bind_of_ok (get_eq _),
    bind_of_ok (modify_eq _ _), bind_of_ok (modify_eq _ _), bind_of_ok (get_eq _)]
  simp only [handAt_changeHand, decide_eq_true_eq]
  rfl

theorem game_topped (on : cells.ended = false) (place : cells.turn = turn.place)
    (pending : cells.pending = turn.pending) (card : Card) :
    (cells.topped turn.place player card).advance.game = cells.game.laid turn player card := by
  rw [game_advance (cells.topped turn.place player card) on]
  simp [topped, game, Game.laid, place, pending]

theorem isFinished_game (cells : Cells) : cells.game.isFinished = cells.ended := by
  cases ended : cells.ended <;> simp [Game.isFinished, game, ended]

theorem play_agrees (cells : Cells) (player : PlayerId) (card : Card) :
    cells.Agrees (cells.game.play player card) (play player card cells) := by
  have ensured := ensureTurn_eq cells player
  cases allowed : cells.game.turnOf player with
  | error error =>
    rw [allowed] at ensured
    rw [play, bind_of_error ensured, Game.play, allowed]
    exact agrees_of_error error
  | ok turn =>
    rcases turn_of_turnOf allowed with ⟨on, place, pending⟩
    rw [allowed] at ensured
    rw [play, bind_of_ok ensured, bind_of_ok (get_eq cells), Game.play_of_turn allowed, ← pending]
    change cells.Agrees (if card ∉ Game.handAt cells.seats turn.place then _
      else if ¬Game.MayPlay cells.pending cells.top card then _ else _) _
    split
    · next missing =>
      rw [bind_of_error (demand_of_not _ missing)]
      exact agrees_of_error _
    · next held =>
      rw [bind_of_ok (demand_of _ (Decidable.not_not.1 held))]
      simp only [bind_of_ok (get_eq cells)]
      split
      · next illegal =>
        rw [bind_of_error (demand_of_not _ illegal)]
        exact agrees_of_error _
      · next legal =>
        rw [bind_of_ok (demand_of _ (Decidable.not_not.1 legal)), lay_eq]
        have laid := @game_topped cells player turn on place pending card
        rw [← laid, isFinished_game]
        exact agrees_of_game rfl fun _ => tidy_advance on

theorem drawInto_eq (cells : Cells) (place count : Nat) :
    drawInto place count cells = .ok (cells.stock.draw count).1 { cells with
      seats := Game.changeHand cells.seats place (· ++ (cells.stock.draw count).1)
      stock := (cells.stock.draw count).2 } := rfl

/-- The cells once cards are drawn and nothing is pending. -/
def drawn (cells : Cells) (place count : Nat) : Cells where
  seats := Game.changeHand cells.seats place (· ++ (cells.stock.draw count).1)
  top := cells.top
  stock := (cells.stock.draw count).2
  turn := cells.turn
  pending := none
  ended := cells.ended
  leaderboard := cells.leaderboard

theorem game_drawn (on : cells.ended = false) (place : cells.turn = turn.place) (count : Nat) :
    (cells.drawn turn.place count).advance.game = (cells.game.drawFor turn.place count).2 := by
  rw [game_advance (cells.drawn turn.place count) on]
  simp [drawn, game, Game.drawFor, place]

theorem draw_agrees (cells : Cells) (player : PlayerId) :
    cells.Agrees (cells.game.drawCard player) (draw player cells) := by
  have ensured := ensureTurn_eq cells player
  cases allowed : cells.game.turnOf player with
  | error error =>
    rw [allowed] at ensured
    rw [draw, bind_of_error ensured, Game.drawCard, allowed]
    exact agrees_of_error error
  | ok turn =>
    rcases turn_of_turnOf allowed with ⟨on, place, pending⟩
    rw [allowed] at ensured
    rw [draw, bind_of_ok ensured, bind_of_ok (get_eq cells), Game.drawCard_of_turn allowed,
      ← pending]
    cases due : cells.pending with
    | some effect =>
      rw [bind_of_error (demand_of_not _ (by simp))]
      exact agrees_of_error _
    | none =>
      rw [bind_of_ok (demand_of _ rfl), bind_of_ok (drawInto_eq cells turn.place 1),
        bind_of_ok (modify_eq _ advance), due]
      exact agrees_of_game (game_drawn on place 1) fun _ => tidy_advance on

theorem pass_agrees (cells : Cells) (player : PlayerId) :
    cells.Agrees (cells.game.pass player) (pass player cells) := by
  have ensured := ensureTurn_eq cells player
  have taken : takePending cells = .ok cells.pending { cells with pending := none } := rfl
  cases allowed : cells.game.turnOf player with
  | error error =>
    rw [allowed] at ensured
    rw [pass, bind_of_error ensured, Game.pass, allowed]
    exact agrees_of_error error
  | ok turn =>
    rcases turn_of_turnOf allowed with ⟨on, place, pending⟩
    rw [allowed] at ensured
    rw [pass, bind_of_ok ensured, bind_of_ok taken, Game.pass_of_turn allowed, ← pending]
    cases due : cells.pending with
    | none =>
      -- taking away nothing has changed nothing
      have unwritten : { cells with pending := none } = cells := by rw [← due]
      rw [unwritten]
      exact agrees_of_error _
    | some effect =>
      cases effect with
      | skip =>
        have skipped := game_advance { cells with pending := none } on
        exact agrees_of_game (skipped.trans (by simp [game, place])) fun _ => tidy_advance on
      | draw count =>
        simp only [bind_of_ok (drawInto_eq { cells with pending := none } turn.place count),
          bind_of_ok (modify_eq _ advance)]
        exact agrees_of_game (game_drawn on place count) fun _ => tidy_advance on

/-- The cells once a seat is gone and its hand is back in the stock. -/
def without (cells : Cells) (left : Nat) : Cells where
  seats := cells.seats.eraseIdx left
  top := cells.top
  stock := cells.stock.putUnder (Game.handAt cells.seats left)
  turn := cells.turn
  pending := cells.pending
  ended := cells.ended
  leaderboard := cells.leaderboard

theorem game_settle_closeUp (cells : Cells) (on : cells.ended = false) (left : Nat) :
    (closeUp left cells).settle.game = { cells.game with
      phase := Game.settle cells.seats (Game.turnWithout left cells.turn cells.seats.length)
        cells.pending } := by
  rw [closeUp_eq]
  exact game_settle { cells with turn := Game.turnWithout left cells.turn cells.seats.length } on

theorem tidy_settle_closeUp (on : cells.ended = false) (left : Nat) :
    (closeUp left cells).settle.Tidy := by
  rw [closeUp_eq]
  exact tidy_settle on

theorem remove_agrees (cells : Cells) (player : PlayerId) :
    cells.Agrees ((cells.game.remove player).map ((), ·)) (remove player cells) := by
  cases found : Game.seatOf? cells.seats player with
  | none =>
    rw [remove, bind_of_error (seatOf_of_none found), Game.remove]
    simp only [game, found]
    exact agrees_of_error _
  | some left =>
    rw [remove, bind_of_ok (seatOf_of_some found), bind_of_ok (get_eq cells),
      bind_of_ok (modify_eq _ _), bind_of_ok (modify_eq _ _), bind_of_ok (get_eq _), Game.remove]
    simp only [game, found]
    by_cases ended : cells.ended
    · rw [if_pos ended, if_pos ended]
      exact agrees_of_game (by simp [game, ended]) id
    · rw [if_neg ended, if_neg ended, bind_of_ok (modify_eq _ _)]
      have on : cells.ended = false := by simpa using ended
      have settled := game_settle_closeUp (cells.without left) on left
      exact agrees_of_game (settled.trans (by simp [without, game, ended])) fun _ =>
        @tidy_settle_closeUp (cells.without left) on left

theorem agrees_unit {α : Type} {outcome : Except GameError (α × Game)} {action : InPlace α}
    (agrees : cells.Agrees outcome (action cells)) :
    cells.Agrees ((outcome.map Prod.snd).map ((), ·)) ((do let _ ← action : InPlace Unit) cells) := by
  cases written : action cells with
  | ok value after =>
    rw [written] at agrees
    rw [bind_of_ok written]
    rcases agrees with ⟨rfl, tidy⟩
    exact agrees_of_game rfl tidy
  | error error after =>
    rw [written] at agrees
    rw [bind_of_error written]
    rcases agrees with ⟨rfl, rfl⟩
    exact agrees_of_error error

/-- Every move agrees with its writes in place. -/
theorem attempt_agrees (cells : Cells) (move : Move) :
    cells.Agrees ((cells.game.attempt move).map ((), ·)) (attempt move cells) := by
  cases move with
  | play player card => exact agrees_unit (play_agrees cells player card)
  | draw player => exact agrees_unit (draw_agrees cells player)
  | pass player => exact agrees_unit (pass_agrees cells player)
  | remove player => exact remove_agrees cells player

/-- A move that is tried in place is accepted or refused as the move is. Tidy cells stay tidy, and a
refused move leaves every cell as it was. -/
theorem attempt_inPlace (cells : Cells) (move : Move) :
    match attempt move cells with
    | .ok _ after => cells.game.attempt move = .ok after.game ∧ (cells.Tidy → after.Tidy)
    | .error error after => cells.game.attempt move = .error error ∧ after = cells := by
  have agrees := attempt_agrees cells move
  cases written : attempt move cells with
  | ok value after =>
    rw [written] at agrees
    rcases agrees with ⟨same, tidy⟩
    cases attempted : cells.game.attempt move with
    | error cause =>
      rw [attempted] at same
      cases same
    | ok next =>
      rw [attempted] at same
      cases same
      exact ⟨rfl, tidy⟩
  | error error after =>
    rw [written] at agrees
    rcases agrees with ⟨same, unwritten⟩
    cases attempted : cells.game.attempt move with
    | error cause =>
      rw [attempted] at same
      cases same
      exact ⟨rfl, unwritten⟩
    | ok next =>
      rw [attempted] at same
      cases same

/-! ## Runs in place -/

/-- The cells as a move leaves them, also if it is refused. -/
def after (cells : Cells) (move : Move) : Cells :=
  match attempt move cells with
  | .ok _ later => later
  | .error _ later => later

def run (cells : Cells) (moves : List Move) : Cells :=
  moves.foldl after cells

theorem after_inPlace (cells : Cells) (move : Move) :
    (cells.after move).game = cells.game.after move ∧ (cells.Tidy → (cells.after move).Tidy) := by
  have tried := attempt_inPlace cells move
  rw [after, Game.after]
  cases written : attempt move cells with
  | ok value later =>
    rw [written] at tried
    rcases tried with ⟨accepted, tidy⟩
    rw [accepted]
    exact ⟨rfl, tidy⟩
  | error error later =>
    rw [written] at tried
    rcases tried with ⟨refused, rfl⟩
    rw [refused]
    exact ⟨rfl, id⟩

/-- Whatever is tried, tidy cells keep the game of the run, and what is pending in them is what is
pending in the game. -/
theorem run_inPlace (tidy : cells.Tidy) (moves : List Move) :
    (cells.run moves).game = cells.game.run moves ∧
      (cells.run moves).pending = (cells.game.run moves).pending := by
  induction moves generalizing cells with
  | nil => exact ⟨rfl, (pending_game tidy).symm⟩
  | cons move moves ih =>
    rcases after_inPlace cells move with ⟨same, kept⟩
    have later := ih (kept tidy)
    rw [same] at later
    exact later

end Cells

end CardTable
