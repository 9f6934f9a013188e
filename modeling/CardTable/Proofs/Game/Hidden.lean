import CardTable.Proofs.Game.Hands
import Mathlib.Data.List.InsertIdx

/-!
# Hidden hands

A hand can be replaced by another one without anybody noticing, as long as neither of them is empty
and its player does nothing: whoever else moves is allowed the same and draws the same cards, the turn
goes the same way, and the game ends at the same time with the same ranking.
-/

namespace CardTable.Game

/-- The seats once a player holds the given hand. -/
def giveHand (seats : List Seat) (player : PlayerId) (hand : List Card) : List Seat :=
  seats.map fun seat => if seat.player = player then { seat with hand } else seat

/-- The game once a player holds the given hand; what the hand was made of does not matter. -/
def withHand (game : Game) (player : PlayerId) (hand : List Card) : Game :=
  { game with seats := giveHand game.seats player hand }

/-- A player who has a seat holds cards there. -/
def Holds (game : Game) (player : PlayerId) : Prop :=
  ∀ seat ∈ game.seats, seat.player = player → seat.InPlay

instance (game : Game) (player : PlayerId) : Decidable (game.Holds player) :=
  inferInstanceAs (Decidable (∀ seat ∈ game.seats, seat.player = player → seat.InPlay))

variable {game next : Game} {player mover : PlayerId} {hand : List Card} {seats : List Seat}
  {place : Nat}

/-! ## Seats -/

section Seats

theorem player_give (seat : Seat) :
    (if seat.player = player then { seat with hand } else seat).player = seat.player := by
  split <;> rfl

theorem seatOf?_giveHand (seats : List Seat) (player : PlayerId) (hand : List Card)
    (asked : PlayerId) : seatOf? (giveHand seats player hand) asked = seatOf? seats asked := by
  simp only [seatOf?, giveHand, List.findIdx?_map, Function.comp_def, player_give]

@[simp]
theorem players_giveHand (seats : List Seat) (player : PlayerId) (hand : List Card) :
    (giveHand seats player hand).map Seat.player = seats.map Seat.player := by
  rw [giveHand, List.map_map]
  exact congrArg (seats.map ·) (funext player_give)

@[simp]
theorem length_giveHand (seats : List Seat) (player : PlayerId) (hand : List Card) :
    (giveHand seats player hand).length = seats.length :=
  List.length_map _

variable (holds : ∀ seat ∈ seats, seat.player = player → seat.InPlay) (held : hand ≠ [])

include holds held

theorem inPlay_giveHand :
    inPlay (giveHand seats player hand) = giveHand (inPlay seats) player hand := by
  rw [inPlay, giveHand, List.filter_map]
  congr 1
  apply List.filter_congr
  intro seat member
  simp only [Function.comp_apply, decide_eq_decide]
  split
  · next same => exact ⟨fun _ => holds seat member same, fun _ => held⟩
  · rfl

theorem length_inPlay_giveHand : (inPlay (giveHand seats player hand)).length =
    (inPlay seats).length := by
  rw [inPlay_giveHand holds held, length_giveHand]

theorem holdsAt_giveHand (place : Nat) :
    holdsAt (giveHand seats player hand) place = holdsAt seats place := by
  rw [holdsAt, holdsAt, giveHand, List.getElem?_map, Option.any_map]
  cases found : seats[place]? with
  | none => rfl
  | some seat =>
    simp only [Option.any_some, decide_eq_decide]
    split
    · next same => exact ⟨fun _ => holds seat (List.mem_of_getElem? found) same, fun _ => held⟩
    · rfl

theorem nextPlace_giveHand (place : Nat) :
    nextPlace (giveHand seats player hand) place = nextPlace seats place := by
  have places : placesAfter (giveHand seats player hand) place = placesAfter seats place := by
    rw [placesAfter, placesAfter, length_giveHand]
  have same := funext fun place => holdsAt_giveHand holds held place
  rw [nextPlace, nextPlace, length_inPlay_giveHand holds held, places, same]

theorem advance_giveHand (turn : Nat) (pending : Option Effect) :
    advance (giveHand seats player hand) turn pending = advance seats turn pending := by
  rw [advance, advance, length_inPlay_giveHand holds held, nextPlace_giveHand holds held]

theorem settle_giveHand (turn : Nat) (pending : Option Effect) :
    settle (giveHand seats player hand) turn pending = settle seats turn pending := by
  rw [settle, settle, length_inPlay_giveHand holds held, nextPlace_giveHand holds held,
    holdsAt_giveHand holds held]

end Seats

section Others

variable (other : mover ≠ player) (found : seatOf? seats mover = some place)

include other found

theorem handAt_giveHand : handAt (giveHand seats player hand) place = handAt seats place := by
  rcases seatOf?_eq_some found with ⟨before, seat, behind, rfl, rfl, owner, _⟩
  have apart : ¬seat.player = player := fun same => other (owner.symm.trans same)
  simp [handAt, giveHand, apart]

theorem changeHand_giveHand (change : List Card → List Card) :
    changeHand (giveHand seats player hand) place change =
      giveHand (changeHand seats place change) player hand := by
  rcases seatOf?_eq_some found with ⟨before, seat, behind, rfl, rfl, owner, _⟩
  have apart : ¬seat.player = player := fun same => other (owner.symm.trans same)
  have length : (giveHand before player hand).length = before.length := length_giveHand _ _ _
  have given (seat : Seat) (apart : ¬seat.player = player) :
      giveHand (before ++ seat :: behind) player hand =
        giveHand before player hand ++ seat :: giveHand behind player hand := by
    simp [giveHand, apart]
  have changed := given { seat with hand := change seat.hand } apart
  rw [changeHand_append, given seat apart, changed, ← length, changeHand_append]

theorem holds_changeHand (holds : ∀ seat ∈ seats, seat.player = player → seat.InPlay)
    (change : List Card → List Card) :
    ∀ seat ∈ changeHand seats place change, seat.player = player → seat.InPlay := by
  rcases seatOf?_eq_some found with ⟨before, seat, behind, rfl, rfl, owner, _⟩
  have apart : ¬seat.player = player := fun same => other (owner.symm.trans same)
  rw [changeHand_append]
  simp only [List.forall_mem_append, List.forall_mem_cons] at holds ⊢
  exact ⟨holds.1, fun same => (apart same).elim, holds.2.2⟩

end Others

/-! ## What everybody may know -/

section Looks

variable (game : Game) (player : PlayerId) (hand : List Card)

@[simp]
theorem currentPlayer?_withHand :
    (game.withHand player hand).currentPlayer? = game.currentPlayer? := by
  simp only [currentPlayer?, ← List.getElem?_map]
  simp only [withHand, players_giveHand]

theorem hand?_withHand (asked : PlayerId) :
    (game.withHand player hand).hand? asked =
      if asked = player then (game.hand? asked).map fun _ => hand else game.hand? asked := by
  simp only [hand?, withHand, giveHand, List.find?_map, Function.comp_def, player_give,
    Option.map_map]
  cases found : game.seats.find? fun seat => seat.player = asked with
  | none => simp
  | some seat =>
    have owner : seat.player = asked := by simpa using List.find?_some found
    by_cases same : asked = player <;> simp [owner, same]

end Looks

section Known

variable (holds : game.Holds player) (held : hand ≠ [])

include holds held

@[simp]
theorem standings_withHand : (game.withHand player hand).standings = game.standings := by
  rw [standings, standings, withHand, inPlay_giveHand holds held, players_giveHand]

/-- Whoever holds cards is seen to hold cards. -/
theorem any_hand?_withHand (asked : PlayerId) :
    ((game.withHand player hand).hand? asked).any (· ≠ []) = (game.hand? asked).any (· ≠ []) := by
  rw [hand?_withHand]
  split
  · next same =>
    subst same
    cases found : game.seats.find? fun seat => seat.player = asked with
    | none => simp [hand?, found]
    | some seat =>
      have owner : seat.player = asked := by simpa using List.find?_some found
      have cards : seat.hand ≠ [] := holds seat (List.mem_of_find?_eq_some found) owner
      simp [hand?, found, held, cards]
  · rfl

end Known

/-! ## Moves of others -/

/-- Whoever moves or leaves, the others keep their cards. -/
theorem Holds.of_attempt {move : Move} (holds : game.Holds player)
    (accepted : game.attempt move = .ok next) (other : move.player ≠ player) :
    next.Holds player := by
  rcases acts_or_leaves accepted with ⟨_, acts⟩ | ⟨_, leaves⟩
  · rcases acts with ⟨before, behind, seat, _, _, _, seated, owner, _, seats, _, _⟩
    have apart : seat.player ≠ player := fun same => other (owner.symm.trans same)
    rw [Holds, seated] at holds
    rw [Holds, seats]
    simp only [List.forall_mem_append, List.forall_mem_cons] at holds ⊢
    exact ⟨holds.1, fun same => (apart same).elim, holds.2.2⟩
  · rcases leaves with ⟨before, behind, seat, seated, _, seats, _, _⟩
    rw [Holds, seated] at holds
    rw [Holds, seats]
    simp only [List.forall_mem_append, List.forall_mem_cons] at holds ⊢
    exact ⟨holds.1, holds.2.2⟩

section Moves

variable (holds : game.Holds player) (held : hand ≠ []) (other : mover ≠ player)

theorem turnOf_withHand (game : Game) (player : PlayerId) (hand : List Card) (mover : PlayerId) :
    (game.withHand player hand).turnOf mover = game.turnOf mover := by
  simp only [turnOf, withHand, seatOf?_giveHand]

include holds held other

theorem laid_withHand {turn : Turn} (found : seatOf? game.seats mover = some turn.place)
    (card : Card) : (game.withHand player hand).laid turn mover card =
      (game.laid turn mover card).withHand player hand := by
  have changed := @changeHand_giveHand _ _ hand _ _ other found (·.erase card)
  simp only [laid, withHand, changed, handAt_giveHand other found,
    advance_giveHand (holds_changeHand other found holds _) held]

theorem drawFor_withHand (found : seatOf? game.seats mover = some place) (count : Nat) :
    (game.withHand player hand).drawFor place count =
      Prod.map id (·.withHand player hand) (game.drawFor place count) := by
  have changed := @changeHand_giveHand _ _ hand _ _ other found (· ++ (game.stock.draw count).1)
  simp only [drawFor, withHand, changed, Prod.map, id,
    advance_giveHand (holds_changeHand other found holds _) held]

theorem play_withHand (card : Card) : (game.withHand player hand).play mover card =
    (game.play mover card).map (Prod.map id (·.withHand player hand)) := by
  have same := turnOf_withHand game player hand mover
  cases allowed : game.turnOf mover with
  | error error =>
    rw [allowed] at same
    rw [play, play, allowed, same]
    rfl
  | ok turn =>
    rw [allowed] at same
    have found := (turnOf_eq_ok_iff.1 allowed).2
    have hands := @handAt_giveHand _ _ hand _ _ other found
    rw [play_of_turn allowed, play_of_turn same, laid_withHand holds held other found]
    simp only [withHand, hands]
    split
    · rfl
    · split <;> rfl

theorem drawCard_withHand : (game.withHand player hand).drawCard mover =
    (game.drawCard mover).map (Prod.map id (·.withHand player hand)) := by
  have same := turnOf_withHand game player hand mover
  cases allowed : game.turnOf mover with
  | error error =>
    rw [allowed] at same
    rw [drawCard, drawCard, allowed, same]
    rfl
  | ok turn =>
    rw [allowed] at same
    have found := (turnOf_eq_ok_iff.1 allowed).2
    rw [drawCard_of_turn allowed, drawCard_of_turn same, drawFor_withHand holds held other found]
    split <;> rfl

theorem pass_withHand : (game.withHand player hand).pass mover =
    (game.pass mover).map (Prod.map id (·.withHand player hand)) := by
  have same := turnOf_withHand game player hand mover
  cases allowed : game.turnOf mover with
  | error error =>
    rw [allowed] at same
    rw [pass, pass, allowed, same]
    rfl
  | ok turn =>
    rw [allowed] at same
    have found := (turnOf_eq_ok_iff.1 allowed).2
    rw [pass_of_turn allowed, pass_of_turn same]
    split
    · rfl
    · simp only [withHand, advance_giveHand holds held]
      rfl
    · rw [drawFor_withHand holds held other found]
      rfl

theorem remove_withHand : (game.withHand player hand).remove mover =
    (game.remove mover).map (·.withHand player hand) := by
  unfold remove
  simp only [withHand, seatOf?_giveHand]
  split
  · rfl
  · next left found =>
    have rest : (giveHand game.seats player hand).eraseIdx left =
        giveHand (game.seats.eraseIdx left) player hand :=
      List.eraseIdx_map _ _ _
    have holds' : ∀ seat ∈ game.seats.eraseIdx left, seat.player = player → seat.InPlay :=
      fun seat member => holds seat (List.mem_of_mem_eraseIdx member)
    simp only [rest, handAt_giveHand other found, length_giveHand, settle_giveHand holds' held]
    rfl

end Moves

end CardTable.Game
