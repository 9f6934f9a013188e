import CardTable.Proofs.Game.Run
import Mathlib.Data.List.Rotate

/-!
# The turn on the ring

The turn is kept as a place in the list of seats. Read from that place, the list is a ring, and the
seats that hold cards, in the order of the ring, are a queue. This file proves what the search for
the next place and the loss of a seat mean for that reading. Seats without cards are invisible in
it, so skipping them is no more than turning the ring.
-/

namespace CardTable

namespace Game

/-! ## Readings of the ring -/

@[simp]
theorem inPlay_append (front back : List Seat) : inPlay (front ++ back) = inPlay front ++ inPlay back :=
  List.filter_append _ _

theorem inPlay_cons (seat : Seat) (seats : List Seat) :
    inPlay (seat :: seats) = if seat.InPlay then seat :: inPlay seats else inPlay seats := by
  simp [inPlay, List.filter_cons]

theorem ringFrom_perm (seats : List Seat) (place : Nat) : (ringFrom seats place).Perm seats := by
  have swapped : (seats.drop place ++ seats.take place).Perm (seats.take place ++ seats.drop place) :=
    List.perm_append_comm
  rwa [List.take_append_drop] at swapped

theorem ringFrom_eq_rotate {seats : List Seat} {place : Nat} (within : place ≤ seats.length) :
    ringFrom seats place = seats.rotate place :=
  (List.rotate_eq_drop_append_take within).symm

theorem ringFrom_append (before behind : List Seat) :
    ringFrom (before ++ behind) before.length = behind ++ before := by
  simp [ringFrom]

theorem ringFrom_append_cons_succ (before behind : List Seat) (seat : Seat) :
    ringFrom (before ++ seat :: behind) (before.length + 1) = behind ++ before ++ [seat] := by
  have shifted := ringFrom_append (before ++ [seat]) behind
  simpa using shifted

theorem length_inPlay_ringFrom (seats : List Seat) (place : Nat) :
    (inPlay (ringFrom seats place)).length = (inPlay seats).length :=
  ((ringFrom_perm seats place).filter _).length_eq

theorem inPlay_rotate_of_idle {ring : List Seat} {steps : Nat} (within : steps ≤ ring.length)
    (idle : ∀ seat ∈ ring.take steps, ¬seat.InPlay) :
    inPlay (ring.rotate steps) = inPlay ring := by
  have skipped : inPlay (ring.take steps) = [] := by
    apply List.filter_eq_nil_iff.2
    intro seat ahead
    simpa using idle seat ahead
  calc inPlay (ring.rotate steps)
      _ = inPlay (ring.drop steps) ++ inPlay (ring.take steps) := by
        rw [List.rotate_eq_drop_append_take within, inPlay_append]
      _ = inPlay (ring.take steps) ++ inPlay (ring.drop steps) := by simp [skipped]
      _ = inPlay ring := by rw [← inPlay_append, List.take_append_drop]

/-! ## The next place -/

theorem holdsAt_turned {seats : List Seat} {place step : Nat} (within : step < seats.length) :
    holdsAt seats ((place + step) % seats.length) =
      (seats.rotate place)[step]?.any fun seat => seat.InPlay := by
  rw [holdsAt, List.getElem?_rotate within, Nat.add_comm]

theorem lt_length_of_holdsAt {seats : List Seat} {place : Nat} (holds : holdsAt seats place) :
    place < seats.length := by
  by_contra beyond
  simp [holdsAt, List.getElem?_eq_none (Nat.le_of_not_lt beyond)] at holds

theorem nextPlace_spec {seats : List Seat} {place : Nat} (within : place < seats.length)
    (two : 2 ≤ (inPlay seats).length) :
    holdsAt seats (nextPlace seats place) ∧
      inPlay (ringFrom seats (nextPlace seats place)) = inPlay (ringFrom seats (place + 1)) := by
  have start : ringFrom seats (place + 1) = seats.rotate (place + 1) := ringFrom_eq_rotate within
  have searched : (placesAfter seats place).find? (holdsAt seats) =
      ((List.range seats.length).find? fun step =>
        holdsAt seats ((place + 1 + step) % seats.length)).map
          fun step => (place + 1 + step) % seats.length := by
    rw [placesAfter, List.find?_map]
    rfl
  rw [nextPlace, if_neg (by omega), searched]
  cases found : (List.range seats.length).find? fun step =>
      holdsAt seats ((place + 1 + step) % seats.length) with
  | none =>
    -- a seat in play stands somewhere on the ring, and the search visits every place of it
    have some_seat : inPlay (seats.rotate (place + 1)) ≠ [] := by
      apply List.ne_nil_of_length_pos
      rw [← start, length_inPlay_ringFrom]
      omega
    rcases List.exists_mem_of_ne_nil _ some_seat with ⟨seat, holder⟩
    rcases List.mem_filter.1 holder with ⟨member, holds⟩
    rcases List.mem_iff_getElem?.1 member with ⟨step, reached⟩
    have inside : step < seats.length := by
      have bound := (List.getElem?_eq_some_iff.1 reached).1
      rwa [List.length_rotate] at bound
    have missed := List.find?_range_eq_none.1 found step inside
    rw [holdsAt_turned inside, reached] at missed
    simp_all
  | some step =>
    rcases List.find?_range_eq_some.1 found with ⟨holds, member, earlier⟩
    have inside : step < seats.length := List.mem_range.1 member
    refine ⟨holds, ?_⟩
    have idle : ∀ seat ∈ (seats.rotate (place + 1)).take step, ¬seat.InPlay := by
      intro seat ahead
      rcases List.mem_take_iff_getElem.1 ahead with ⟨index, bound, rfl⟩
      have skipped := earlier index (by omega)
      rw [holdsAt_turned (by omega), List.getElem?_eq_getElem (by simp; omega)] at skipped
      simpa using skipped
    have turned : (place + 1 + step) % seats.length ≤ seats.length :=
      (Nat.mod_lt _ (by omega)).le
    change inPlay (ringFrom seats ((place + 1 + step) % seats.length)) = _
    rw [ringFrom_eq_rotate turned, List.rotate_mod, ← List.rotate_rotate, start]
    exact inPlay_rotate_of_idle (by simp; omega) idle

/-! ## Advancing and settling -/

/-- The game is on, and its turns come in the order of a reading of its ring; or it is over, with at
most one seat in play. -/
inductive Follows (game : Game) (ring : List Seat) : Prop
  | ended (few : (inPlay game.seats).length ≤ 1) (phase : game.phase = .finished)
  | on (place : Nat) (pending : Option Effect) (two : 2 ≤ (inPlay game.seats).length)
      (phase : game.phase = .active place pending) (holds : holdsAt game.seats place)
      (order : inPlay (ringFrom game.seats place) = inPlay ring)

/-- While the game is on, the seat on turn is in play, and so is another one. -/
def Ready (game : Game) : Prop :=
  ∀ turn pending, game.phase = .active turn pending →
    holdsAt game.seats turn ∧ 2 ≤ (inPlay game.seats).length

theorem Follows.ready {game : Game} {ring : List Seat} (follows : game.Follows ring) :
    game.Ready := by
  intro turn pending onTurn
  cases follows with
  | ended few phase =>
    rw [phase] at onTurn
    cases onTurn
  | on place other two phase holds order =>
    rw [phase] at onTurn
    cases onTurn
    exact ⟨holds, two⟩

theorem follows_of_advance {game : Game} {turn : Nat} {answer : Option Effect}
    (within : turn < game.seats.length) (phase : game.phase = advance game.seats turn answer) :
    game.Follows (ringFrom game.seats (turn + 1)) := by
  unfold advance at phase
  split at phase
  · next few => exact .ended few phase
  · next many =>
    have two : 2 ≤ (inPlay game.seats).length := by omega
    rcases nextPlace_spec within two with ⟨holds, order⟩
    exact .on _ answer two phase holds order

theorem follows_of_settle {game : Game} {turn : Nat} {pending : Option Effect}
    (within : 2 ≤ (inPlay game.seats).length → turn < game.seats.length)
    (phase : game.phase = settle game.seats turn pending) :
    game.Follows (ringFrom game.seats turn) := by
  unfold settle at phase
  split at phase
  · next few => exact .ended few phase
  · next many =>
    have two : 2 ≤ (inPlay game.seats).length := by omega
    have inside := within two
    split at phase
    · next holds => exact .on turn pending two phase holds rfl
    · next empty =>
      rcases nextPlace_spec inside two with ⟨holds, order⟩
      refine .on _ pending two phase holds (order.trans ?_)
      rw [ringFrom_eq_rotate (Nat.succ_le_of_lt inside), ringFrom_eq_rotate inside.le,
        Nat.succ_eq_add_one, ← List.rotate_rotate]
      apply inPlay_rotate_of_idle
      · simp
        omega
      · intro seat first
        rw [List.take_one, List.head?_rotate inside] at first
        simp_all [holdsAt]

/-! ## What moves do to the ring -/

theorem Acts.follows {game next : Game} {player : PlayerId} (acts : game.Acts player next) :
    ∃ turn pending seat hand rest, game.phase = .active turn pending ∧ seat.player = player ∧
      ringFrom game.seats turn = seat :: rest ∧
      next.seats.Perm ({ seat with hand } :: rest) ∧
      next.Follows (rest ++ [{ seat with hand }]) := by
  rcases acts with ⟨before, behind, seat, hand, pending, answer, seated, owner, onTurn, seats, phase, _⟩
  have within : before.length < next.seats.length := by simp [seats]
  have ring : ringFrom game.seats before.length = seat :: (behind ++ before) := by
    rw [seated, ringFrom_append, List.cons_append]
  have shown := follows_of_advance within phase
  rw [seats, ringFrom_append_cons_succ] at shown
  refine ⟨_, pending, seat, hand, behind ++ before, onTurn, owner, ring, ?_, shown⟩
  rw [seats]
  exact List.perm_middle.trans (List.perm_append_comm.cons _)

theorem exists_append_of_le {seats : List Seat} {place : Nat} (within : place ≤ seats.length) :
    ∃ front back, seats = front ++ back ∧ front.length = place :=
  ⟨seats.take place, seats.drop place, (List.take_append_drop place seats).symm,
    by simp [within]⟩

/-- When a seat is gone, the turn is where the ring without that seat begins. -/
theorem ringFrom_turnWithout (before behind : List Seat) (seat : Seat) {turn : Nat}
    (within : turn < (before ++ seat :: behind).length) :
    ∃ front back, ringFrom (before ++ seat :: behind) turn = front ++ seat :: back ∧
      ringFrom (before ++ behind)
        (turnWithout before.length turn (before ++ behind).length) = front ++ back := by
  simp only [List.length_append, List.length_cons] at within
  unfold turnWithout
  rcases Nat.lt_trichotomy before.length turn with earlier | same | later
  · have inside : turn - (before.length + 1) ≤ behind.length := by omega
    rcases exists_append_of_le inside with ⟨passed, rest, rfl, length⟩
    refine ⟨rest ++ before, passed, ?_, ?_⟩
    · have place : turn = (before ++ seat :: passed).length := by
        simp only [List.length_append, List.length_cons]
        omega
      have read := ringFrom_append (before ++ seat :: passed) rest
      rw [← place] at read
      simpa using read
    · have place : turn - 1 = (before ++ passed).length := by
        simp only [List.length_append]
        omega
      have read := ringFrom_append (before ++ passed) rest
      rw [if_pos earlier, place]
      simpa using read
  · refine ⟨[], behind ++ before, ?_, ?_⟩
    · rw [← same, ringFrom_append]
      rfl
    · rw [if_neg (by omega), if_pos same]
      cases behind with
      | nil => simp [ringFrom]
      | cons first others =>
        have inside : before.length < (before ++ first :: others).length := by simp
        rw [Nat.mod_eq_of_lt inside, ringFrom_append]
        rfl
  · rcases exists_append_of_le later.le with ⟨passed, rest, rfl, length⟩
    refine ⟨rest, behind ++ passed, ?_, ?_⟩
    · have read := ringFrom_append passed (rest ++ seat :: behind)
      rw [length] at read
      simpa using read
    · have read := ringFrom_append passed (rest ++ behind)
      rw [length] at read
      rw [if_neg (by omega), if_neg (by omega)]
      simpa using read

theorem turnWithout_lt {before behind : List Seat} {seat : Seat} {turn : Nat}
    (within : turn < (before ++ seat :: behind).length) (left : before ++ behind ≠ []) :
    turnWithout before.length turn (before ++ behind).length < (before ++ behind).length := by
  have some_left := List.length_pos_iff.2 left
  simp only [List.length_append, List.length_cons] at within some_left ⊢
  unfold turnWithout
  split
  · omega
  · split
    · exact Nat.mod_lt _ some_left
    · omega

theorem Leaves.follows {game next : Game} {player : PlayerId} {turn : Nat}
    {pending : Option Effect} (leaves : game.Leaves player next)
    (onTurn : game.phase = .active turn pending) (within : turn < game.seats.length) :
    ∃ front seat back, ringFrom game.seats turn = front ++ seat :: back ∧ seat.player = player ∧
      next.seats.Perm (front ++ back) ∧ next.Follows (front ++ back) := by
  rcases leaves with ⟨before, behind, seat, seated, owner, seats, phase, _⟩
  rw [seated] at within
  rcases ringFrom_turnWithout before behind seat within with ⟨front, back, whole, rest⟩
  have perm : next.seats.Perm (front ++ back) := by
    rw [seats, ← rest]
    exact (ringFrom_perm _ _).symm
  refine ⟨front, seat, back, by rw [seated, whole], owner, perm, ?_⟩
  rw [onTurn] at phase
  rw [← rest, ← seats]
  refine follows_of_settle ?_ phase
  intro two
  rw [seats] at two ⊢
  apply turnWithout_lt within
  rintro gone
  simp [gone, inPlay] at two

theorem advance_ne_finished {seats : List Seat} (two : 2 ≤ (inPlay seats).length) (turn : Nat)
    (answer : Option Effect) : advance seats turn answer ≠ .finished := by
  rw [advance, if_neg (by omega)]
  simp

/-- Drawing ends no game: the hand that grows held cards before. -/
theorem phase_drawFor_ne_finished {game : Game} {player : PlayerId} {turn : Turn}
    (ready : game.Ready) (allowed : game.turnOf player = .ok turn) (count : Nat) :
    (game.drawFor turn.place count).2.phase ≠ .finished := by
  rcases turnOf_eq_ok_iff.1 allowed with ⟨onTurn, found⟩
  rcases ready _ _ onTurn with ⟨holds, two⟩
  rcases seatOf?_eq_some found with ⟨before, seat, behind, seated, place, -⟩
  have inPlay : seat.InPlay := by
    rw [holdsAt, seated, ← place] at holds
    simpa using holds
  have grown : ({ seat with hand := seat.hand ++ (game.stock.draw count).1 } : Seat).InPlay := by
    simp_all [Seat.InPlay]
  apply advance_ne_finished
  rw [seated] at two ⊢
  rw [← place, changeHand_append]
  simp only [inPlay_append, inPlay_cons, if_pos inPlay, List.length_append, List.length_cons] at two
  simp only [inPlay_append, inPlay_cons, if_pos grown, List.length_append, List.length_cons]
  exact two

theorem phase_drawCard_ne_finished {game next : Game} {player : PlayerId} {cards : List Card}
    (ready : game.Ready) (accepted : game.drawCard player = .ok (cards, next)) :
    next.phase ≠ .finished := by
  rcases drawCard_eq_ok accepted with ⟨turn, allowed, -, drawn⟩
  have goes_on := phase_drawFor_ne_finished ready allowed 1
  rwa [drawn] at goes_on

theorem phase_pass_ne_finished {game next : Game} {player : PlayerId} {passed : Passed}
    (ready : game.Ready) (accepted : game.pass player = .ok (passed, next)) :
    next.phase ≠ .finished := by
  rcases pass_eq_ok accepted with ⟨turn, allowed, ⟨-, rfl⟩ | ⟨count, -, rfl⟩⟩
  · have onTurn := (turnOf_eq_ok_iff.1 allowed).1
    exact advance_ne_finished (ready _ _ onTurn).2 _ _
  · exact phase_drawFor_ne_finished ready allowed count

/-! ## Readiness after a move -/

theorem ready_of_attempt {game next : Game} {move : Move} (ready : game.Ready)
    (accepted : game.attempt move = .ok next) : next.Ready := by
  rcases acts_or_leaves accepted with ⟨-, acts⟩ | ⟨-, leaves⟩
  · rcases acts.follows with ⟨_, _, _, _, _, _, _, _, _, follows⟩
    exact follows.ready
  · cases phase : game.phase with
    | active turn pending =>
      have within := lt_length_of_holdsAt (ready turn pending phase).1
      rcases leaves.follows phase within with ⟨_, _, _, _, _, _, follows⟩
      exact follows.ready
    | finished =>
      intro turn pending onTurn
      rcases leaves with ⟨_, _, _, _, _, _, ended, _⟩
      rw [onTurn, phase] at ended
      cases ended

theorem ready_ofPosition (seats : List Seat) (top : Card) (deck : List Card)
    (recycles : List Shuffle) : (ofPosition seats top deck recycles).Ready := by
  refine (@follows_of_settle (ofPosition seats top deck recycles) 0 none ?_ rfl).ready
  intro two
  have some_seat : 0 < (inPlay seats).length := by
    simp only [ofPosition] at two
    omega
  exact some_seat.trans_le (List.length_filter_le _ _)

end Game

end CardTable
