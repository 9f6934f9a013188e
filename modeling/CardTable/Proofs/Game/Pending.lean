import CardTable.Proofs.Game.Drawing
import CardTable.Proofs.Game.Turn
import Mathlib.Data.List.DropRight

/-!
# What is pending

A game stores what the player on turn has to answer. The file proves that the stored effect is no
state of its own: it can be read off the actions that were accepted so far. An ace is pending when
the last of them laid an ace, and as many sevens are due as the actions end in. Players who leave
change nothing in this. The sevens that are due lie on top of each other, and a deck has four, so
nobody ever has to draw more than eight cards.
-/

namespace CardTable

namespace Move

def rank? : Move → Option Rank
  | play _ card => some card.rank
  | draw _ | pass _ | remove _ => none

/-- The move lays a card of the rank. -/
def Lays (move : Move) (rank : Rank) : Prop :=
  move.rank? = some rank

instance (move : Move) (rank : Rank) : Decidable (move.Lays rank) :=
  inferInstanceAs (Decidable (_ = _))

instance : DecidablePred IsAction
  | remove _ => .isFalse id
  | play _ _ | draw _ | pass _ => .isTrue trivial

/-- What is pending behind the move. -/
def effect : Move → Option Effect → Option Effect
  | play _ card, pending => Game.effectOf card pending
  | draw _, _ | pass _, _ => none
  | remove _, pending => pending

end Move

namespace Game

/-- The accepted actions of a run in their order. Leaving is no action. -/
def actions (game : Game) : List Move → List Move
  | [] => []
  | move :: later =>
    match game.attempt move with
    | .ok next => if move.IsAction then move :: next.actions later else next.actions later
    | .error _ => game.actions later

/-- The sevens that the actions end in. -/
def sevens (actions : List Move) : List Move :=
  actions.rtakeWhile fun move => move.Lays .seven

/-- What the actions leave the next player to answer. -/
def owed (actions : List Move) : Option Effect :=
  if sevens actions ≠ [] then some (.draw (2 * (sevens actions).length))
  else if ∃ move ∈ actions.getLast?, move.Lays .ace then some .skip
  else none

/-- The last `count` actions lay sevens, and the one before them does not. -/
def EndsInSevens (actions : List Move) (count : Nat) : Prop :=
  ∃ earlier chain, actions = earlier ++ chain ∧ chain.length = count ∧
    (∀ move ∈ chain, move.Lays .seven) ∧ ∀ move ∈ earlier.getLast?, ¬move.Lays .seven

variable {game next : Game} {player : PlayerId} {move : Move} {past : List Move}

/-! ## Chains of sevens -/

theorem sevens_append (past : List Move) (move : Move) :
    sevens (past ++ [move]) = if move.Lays .seven then sevens past ++ [move] else [] := by
  simp [sevens, List.rtakeWhile_concat]

theorem length_sevens_eq_iff {count : Nat} :
    (sevens past).length = count ↔ EndsInSevens past count := by
  constructor
  · rintro rfl
    refine ⟨_, sevens past, List.rdropWhile_append_rtakeWhile.symm, rfl, ?_, ?_⟩
    · intro move chained
      simpa using List.mem_rtakeWhile_imp chained
    · intro move last
      rcases List.mem_getLast?_eq_getLast last with ⟨some_left, rfl⟩
      simpa using List.rdropWhile_last_not _ _ some_left
  · rintro ⟨earlier, chain, rfl, rfl, laid, ended⟩
    induction chain using List.reverseRecOn with
    | nil =>
      have none_left : sevens earlier = [] := by
        apply List.rtakeWhile_eq_nil_iff.2
        intro some_left
        simpa using ended _ (List.getLast?_eq_some_getLast some_left)
      simp [none_left]
    | append_singleton chain move ih =>
      have last : move.Lays .seven := laid move (by simp)
      have shorter := ih fun other member => laid other (by simp [member])
      rw [← List.append_assoc, sevens_append, if_pos last]
      simp [shorter]

theorem sevens_eq_nil_iff : sevens past = [] ↔ ∀ move ∈ past.getLast?, ¬move.Lays .seven := by
  induction past using List.reverseRecOn with
  | nil => simp [sevens]
  | append_singleton past move ih => simp [sevens_append]

/-- What is owed changes with each action as the stored effect does. -/
theorem owed_append (past : List Move) (action : move.IsAction) :
    owed (past ++ [move]) = move.effect (owed past) := by
  cases move with
  | play player card =>
    obtain ⟨suit, rank⟩ := card
    by_cases chain : sevens past = []
    · cases rank <;>
        simp [owed, sevens_append, chain, Move.Lays, Move.rank?, Move.effect, effectOf]
    · cases rank <;>
        simp [owed, sevens_append, chain, Move.Lays, Move.rank?, Move.effect, effectOf, Nat.mul_add]
  | draw player => simp [owed, sevens_append, Move.Lays, Move.rank?, Move.effect]
  | pass player => simp [owed, sevens_append, Move.Lays, Move.rank?, Move.effect]
  | remove player => exact action.elim

/-! ## The stored effect -/

theorem pending_of_advance {seats : List Seat} {turn : Nat} {answer : Option Effect}
    (on : game.phase ≠ .finished) (phase : game.phase = advance seats turn answer) :
    game.pending = answer := by
  unfold advance at phase
  split at phase
  · exact (on phase).elim
  · simp [pending, phase]

theorem pending_of_settle {seats : List Seat} {turn : Nat} {answer : Option Effect}
    (on : game.phase ≠ .finished) (phase : game.phase = settle seats turn answer) :
    game.pending = answer := by
  unfold settle at phase
  split at phase
  · exact (on phase).elim
  · split at phase <;> simp [pending, phase]

theorem pending_of_action (action : move.IsAction) (accepted : game.attempt move = .ok next)
    (on : next.phase ≠ .finished) : next.pending = move.effect game.pending := by
  cases move with
  | play player card =>
    rcases map_snd_eq_ok accepted with ⟨played, accepted⟩
    rcases play_eq_ok accepted with ⟨turn, allowed, -, -, rfl, -⟩
    have stored : game.pending = turn.pending := by
      simp [pending, (turnOf_eq_ok_iff.1 allowed).1]
    simpa [Move.effect, stored] using pending_of_advance on rfl
  | draw player =>
    rcases map_snd_eq_ok accepted with ⟨cards, accepted⟩
    rcases drawCard_eq_ok accepted with ⟨turn, -, -, drawn⟩
    cases drawn
    exact pending_of_advance on rfl
  | pass player =>
    rcases map_snd_eq_ok accepted with ⟨passed, accepted⟩
    rcases pass_eq_ok accepted with ⟨turn, -, ⟨-, rfl⟩ | ⟨count, -, rfl⟩⟩
    · exact pending_of_advance on rfl
    · exact pending_of_advance on rfl
  | remove player => exact action.elim

/-- A player who leaves takes nothing pending along. -/
theorem pending_of_remove (removed : game.remove player = .ok next)
    (on : next.phase ≠ .finished) : next.pending = game.pending := by
  rcases leaves_of_remove removed with ⟨_, _, _, _, _, _, phase, _⟩
  cases before : game.phase with
  | finished =>
    rw [before] at phase
    exact (on phase).elim
  | active turn pending =>
    rw [before] at phase
    rw [pending_of_settle on phase]
    simp [Game.pending, before]

theorem pending_of_finished (ended : game.phase = .finished) : game.pending = none := by
  simp [pending, ended]

/-! ## The cards on top -/

/-- The newest `count` cards that lie open, the top card first, are sevens. -/
def StacksSevens (game : Game) (count : Nat) : Prop :=
  ∃ chain rest, game.top :: game.stock.pile = chain ++ rest ∧ chain.length = count ∧
    ∀ card ∈ chain, card.rank = .seven

theorem stacksSevens_zero (game : Game) : game.StacksSevens 0 :=
  ⟨[], _, rfl, rfl, by simp⟩

theorem StacksSevens.laid {count : Nat} (stacked : game.StacksSevens count) (turn : Turn)
    {card : Card} (seven : card.rank = .seven) :
    (game.laid turn player card).StacksSevens (count + 1) := by
  rcases stacked with ⟨chain, rest, newest, rfl, sevens⟩
  refine ⟨card :: chain, rest, ?_, rfl, by simpa [seven] using sevens⟩
  simp [Game.laid, Stock.discard, newest]

theorem StacksSevens.remove {count : Nat} (stacked : game.StacksSevens count)
    (removed : game.remove player = .ok next) : next.StacksSevens count := by
  unfold Game.remove at removed
  split at removed
  · cases removed
  · cases removed
    exact stacked

theorem length_filter_seven : (standardDeck.filter fun card => card.rank = .seven).length = 4 := by
  decide

/-- A deck has four sevens. -/
theorem StacksSevens.le_four {count : Nat} (stacked : game.StacksSevens count)
    (whole : game.allCards.Perm standardDeck) : count ≤ 4 := by
  rcases stacked with ⟨chain, rest, newest, rfl, sevens⟩
  have once : (game.stock.cards ++ game.top :: game.seats.flatMap Seat.hand).Nodup :=
    (game.allCards_perm.symm.trans whole).nodup_iff.2 nodup_standardDeck
  have open_once : (game.top :: game.stock.pile).Nodup := by
    simp only [Stock.cards, List.nodup_append, List.nodup_cons] at once ⊢
    refine ⟨fun twice => ?_, once.1.2.1⟩
    exact once.2.2 _ (List.mem_append_right _ twice) game.top (by simp) rfl
  have chain_once : chain.Nodup := by
    rw [newest] at open_once
    exact (List.nodup_append.1 open_once).1
  have within : chain ⊆ standardDeck.filter fun card => card.rank = .seven := by
    intro card member
    simpa [mem_standardDeck] using sevens card member
  have few := (List.subperm_of_subset chain_once within).length_le
  rwa [length_filter_seven] at few

/-! ## Along a run -/

/-- What is pending is what the past actions owe, and the sevens that are due lie on top. -/
structure Owes (game : Game) (past : List Move) : Prop where
  pending : game.pending = owed past
  stacked : game.StacksSevens (sevens past).length

/-- While the game is on, it owes what the past actions owe. -/
def FollowsPast (game : Game) (past : List Move) : Prop :=
  game.phase ≠ .finished → game.Owes past

theorem phase_of_attempt (accepted : game.attempt move = .ok next) (on : next.phase ≠ .finished) :
    game.phase ≠ .finished := by
  intro ended
  rcases acts_or_leaves accepted with ⟨-, acts⟩ | ⟨-, leaves⟩
  · rcases acts with ⟨_, _, _, _, _, _, _, _, onTurn, _, _, _⟩
    simp [ended] at onTurn
  · rcases leaves with ⟨_, _, _, _, _, _, phase, _⟩
    exact on (by simpa [ended] using phase)

theorem FollowsPast.act (follows : game.FollowsPast past) (action : move.IsAction)
    (accepted : game.attempt move = .ok next) : next.FollowsPast (past ++ [move]) := by
  intro on
  rcases follows (phase_of_attempt accepted on) with ⟨pending, stacked⟩
  refine ⟨?_, ?_⟩
  · rw [pending_of_action action accepted on, owed_append past action, pending]
  · rw [sevens_append]
    split
    · next lays =>
      cases move with
      | play player card =>
        rcases map_snd_eq_ok accepted with ⟨played, accepted⟩
        rcases play_eq_ok accepted with ⟨turn, -, -, -, rfl, -⟩
        simpa using stacked.laid turn (by simpa [Move.Lays, Move.rank?] using lays)
      | draw player | pass player | remove player => simp [Move.Lays, Move.rank?] at lays
    · exact stacksSevens_zero next

theorem FollowsPast.remove (follows : game.FollowsPast past)
    (removed : game.remove player = .ok next) : next.FollowsPast past := by
  intro on
  rcases follows (@phase_of_attempt game next (.remove player) removed on) with ⟨pending, stacked⟩
  exact ⟨(pending_of_remove removed on).trans pending, stacked.remove removed⟩

theorem FollowsPast.run (follows : game.FollowsPast past) (moves : List Move) :
    (game.run moves).FollowsPast (past ++ game.actions moves) := by
  induction moves generalizing game past with
  | nil => simpa [Game.run, actions] using follows
  | cons move moves ih =>
    change ((game.after move).run moves).FollowsPast _
    cases outcome : game.attempt move with
    | error error => simpa [after, actions, outcome] using ih follows
    | ok next =>
      by_cases action : move.IsAction
      · simpa [after, actions, outcome, action] using ih (follows.act action outcome)
      · cases move with
        | remove player => simpa [after, actions, outcome, action] using ih (follows.remove outcome)
        | play player card | draw player | pass player => exact (action trivial).elim

/-- A dealt game owes nothing, whatever card is turned up. -/
theorem followsPast_of_deal {players : List PlayerId} {wanted : Nat} {chance : Deal}
    (dealt : Game.deal players wanted chance = .ok game) :
    game.pending = none ∧ game.FollowsPast [] := by
  have free : game.pending = none := by simp [pending, (opening_of_deal dealt).2.1]
  exact ⟨free, fun _ => ⟨free, stacksSevens_zero game⟩⟩

/-! ## What is owed -/

theorem owed_eq_skip_iff :
    owed past = some .skip ↔ ∃ move ∈ past.getLast?, move.Lays .ace := by
  by_cases chain : sevens past = []
  · simp [owed, chain]
  · simp only [owed, chain, not_false_eq_true, if_true, ne_eq, Option.some.injEq, reduceCtorEq,
      false_iff, not_exists, not_and]
    intro move last ace
    apply chain
    apply sevens_eq_nil_iff.2
    intro other last' seven
    cases Option.mem_unique last last'
    simp [Move.Lays] at ace seven
    simp [ace] at seven

theorem owed_eq_draw_iff {count : Nat} :
    owed past = some (.draw count) ↔ ∃ k, 1 ≤ k ∧ count = 2 * k ∧ EndsInSevens past k := by
  constructor
  · intro due
    unfold owed at due
    split at due
    · next chain =>
      refine ⟨(sevens past).length, List.length_pos_iff.2 chain, ?_, length_sevens_eq_iff.1 rfl⟩
      simpa using due.symm
    · split at due <;> simp at due
  · rintro ⟨k, some_due, rfl, ends⟩
    have length := length_sevens_eq_iff.2 ends
    have chain : sevens past ≠ [] := by
      apply List.ne_nil_of_length_pos
      omega
    simp [owed, chain, length]

theorem owed_eq_none_iff :
    owed past = none ↔ ∀ move ∈ past.getLast?, ¬move.Lays .ace ∧ ¬move.Lays .seven := by
  rw [forall₂_and, ← sevens_eq_nil_iff]
  by_cases chain : sevens past = []
  · simp [owed, chain]
  · simp [owed, chain]

/-! ## The law -/

/-- Nobody draws more cards than are due. -/
theorem exists_due_of_pass {cards : List Card}
    (accepted : game.pass player = .ok (.drew cards, next)) :
    ∃ count, game.pending = some (.draw count) ∧ cards.length ≤ count := by
  rcases pass_eq_drew accepted with ⟨turn, count, allowed, due, drawn⟩
  have stored : game.pending = turn.pending := by
    simp [pending, (turnOf_eq_ok_iff.1 allowed).1]
  cases drawn
  exact ⟨count, stored.trans due,
    (Stock.length_draw count game.stock).trans_le (Nat.min_le_left _ _)⟩

/-- What is pending in a dealt game that is on can be read off the actions so far, whoever has left:
an ace if the last action laid one, two cards for each of the sevens that the actions end in, and
nothing otherwise. At most four sevens are ever due, which are the newest open cards, so nobody has
to draw more than eight cards. A player who leaves changes what is pending only by ending the
game. -/
theorem pending_follows_actions {players : List PlayerId} {wanted : Nat} {chance : Deal}
    {start : Game} (dealt : Game.deal players wanted chance = .ok start) :
    start.pending = none ∧
    ∀ moves, (start.run moves).phase ≠ .finished →
      ((start.run moves).pending = some .skip ↔
        ∃ move ∈ (start.actions moves).getLast?, move.Lays .ace) ∧
      (∀ count, (start.run moves).pending = some (.draw count) ↔
        ∃ k, 1 ≤ k ∧ count = 2 * k ∧ EndsInSevens (start.actions moves) k) ∧
      ((start.run moves).pending = none ↔
        ∀ move ∈ (start.actions moves).getLast?, ¬move.Lays .ace ∧ ¬move.Lays .seven) ∧
      (∀ k, (start.run moves).pending = some (.draw (2 * k)) →
        1 ≤ k ∧ k ≤ 4 ∧ (start.run moves).StacksSevens k) ∧
      (∀ player cards next, (start.run moves).pass player = .ok (.drew cards, next) →
        cards.length ≤ 8) ∧
      ∀ player ∈ (start.run moves).players, ∃ next, (start.run moves).remove player = .ok next ∧
        (next.phase ≠ .finished → next.pending = (start.run moves).pending) ∧
        (next.phase = .finished → next.pending = none) := by
  rcases followsPast_of_deal dealt with ⟨free, follows⟩
  refine ⟨free, fun moves on => ?_⟩
  rcases follows.run moves on with ⟨pending, stacked⟩
  have whole := (allCards_run_perm start moves).trans (allCards_deal_perm dealt)
  have chain : ∀ count, (start.run moves).pending = some (.draw count) →
      ∃ k, 1 ≤ k ∧ k ≤ 4 ∧ count = 2 * k ∧ (start.run moves).StacksSevens k := by
    intro count due
    rw [pending, owed_eq_draw_iff] at due
    rcases due with ⟨k, some_due, rfl, ends⟩
    simp only [List.nil_append] at ends stacked
    rw [length_sevens_eq_iff.2 ends] at stacked
    exact ⟨k, some_due, stacked.le_four whole, rfl, stacked⟩
  simp only [List.nil_append] at pending
  refine ⟨by rw [pending, owed_eq_skip_iff], fun count => by rw [pending, owed_eq_draw_iff],
    by rw [pending, owed_eq_none_iff], ?_, ?_, ?_⟩
  · intro k due
    rcases chain _ due with ⟨other, some_due, few, same, stacked⟩
    obtain rfl : k = other := by omega
    exact ⟨some_due, few, stacked⟩
  · intro player cards next accepted
    rcases exists_due_of_pass accepted with ⟨count, due, drawn⟩
    rcases chain count due with ⟨k, -, few, rfl, -⟩
    omega
  · intro player seated
    rcases exists_remove seated with ⟨next, removed⟩
    exact ⟨next, removed, pending_of_remove removed, pending_of_finished⟩

/-- A seven is due behind cards that threaten nothing, and whoever owes the draw leaves. -/
theorem pending_follows_actions_of_seven :
    ∃ start, Game.deal [1, 2, 3] 4 default = .ok start ∧
      let game := start.run [.play 1 ⟨.spades, .king⟩, .play 2 ⟨.diamonds, .king⟩,
        .play 3 ⟨.diamonds, .nine⟩, .play 1 ⟨.diamonds, .eight⟩, .play 2 ⟨.diamonds, .seven⟩]
      game.phase ≠ .finished ∧ game.pending = some (.draw (2 * 1)) ∧ game.StacksSevens 1 ∧
        ∃ next, game.remove 3 = .ok next ∧ next.phase ≠ .finished ∧
          next.pending = some (.draw (2 * 1)) := by
  refine ⟨_, rfl, ?_⟩
  intro game
  have on : game.phase ≠ .finished := by decide
  have due : game.pending = some (.draw (2 * 1)) := rfl
  rcases (@pending_follows_actions [1, 2, 3] 4 default _ rfl).2 _ on with ⟨-, -, -, chain, -, leaving⟩
  rcases leaving 3 (by decide) with ⟨next, removed, kept, -⟩
  have goes_on : next.phase ≠ .finished := by
    cases removed
    decide
  exact ⟨on, due, (chain 1 due).2.2, next, removed, goes_on, (kept goes_on).trans due⟩

end Game

end CardTable
