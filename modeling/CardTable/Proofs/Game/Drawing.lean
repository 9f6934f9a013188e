import CardTable.Proofs.Game.Conservation
import CardTable.Proofs.Game.Hands
import CardTable.Proofs.Game.InPlace

/-!
# Drawing

Whoever draws takes cards off the deck, and when the deck runs dry the pile is turned over and the
drawing goes on. The file says in closed form which cards come out and in which order, and follows
the drawing card by card with a record of what happens: the pile is turned over at most once, and
not before the last card of the deck is drawn.
-/

namespace CardTable

/-- What happens to the stock while somebody draws. -/
inductive Incident
  | drew (card : Card)
  | turnedOver
  deriving DecidableEq

namespace Incident

def card? : Incident → Option Card
  | drew card => some card
  | turnedOver => none

@[simp]
theorem filterMap_drew (cards : List Card) : (cards.map drew).filterMap card? = cards := by
  induction cards with
  | nil => rfl
  | cons card cards ih => simpa [card?] using ih

theorem turnedOver_notMem_drew (cards : List Card) : turnedOver ∉ cards.map drew := by
  simp

@[simp]
theorem count_turnedOver_drew (cards : List Card) : (cards.map drew).count turnedOver = 0 :=
  List.count_eq_zero.2 (turnedOver_notMem_drew cards)

end Incident

namespace Stock

variable {stock : Stock} {card : Card} {rest : List Card} {count : Nat}

/-! ## In closed form -/

/-- The deck is not enough for so many cards, and there is a pile to go on with. -/
def RunsDry (stock : Stock) (count : Nat) : Prop :=
  stock.deck.length < count ∧ stock.pile ≠ []

instance (stock : Stock) (count : Nat) : Decidable (stock.RunsDry count) :=
  inferInstanceAs (Decidable (_ ∧ _))

/-- What happens when so many cards are drawn, and what is left. -/
def drawing (stock : Stock) (count : Nat) : List Incident × Stock :=
  if stock.RunsDry count then
    let more := count - stock.deck.length
    (stock.deck.map .drew ++ .turnedOver :: (stock.turnOver.deck.take more).map .drew,
      { stock.turnOver with deck := stock.turnOver.deck.drop more })
  else ((stock.deck.take count).map .drew, { stock with deck := stock.deck.drop count })

theorem drawing_of_runsDry (dry : stock.RunsDry count) :
    stock.drawing count =
      (stock.deck.map .drew ++
          .turnedOver :: (stock.turnOver.deck.take (count - stock.deck.length)).map .drew,
        { stock.turnOver with deck := stock.turnOver.deck.drop (count - stock.deck.length) }) :=
  if_pos dry

theorem drawing_of_not_runsDry (lasts : ¬stock.RunsDry count) :
    stock.drawing count =
      ((stock.deck.take count).map .drew, { stock with deck := stock.deck.drop count }) :=
  if_neg lasts

@[simp]
theorem drawing_zero (stock : Stock) : stock.drawing 0 = ([], stock) := by
  rw [drawing_of_not_runsDry (by simp [RunsDry])]
  simp

theorem drawing_of_empty (deck : stock.deck = []) (pile : stock.pile = []) (count : Nat) :
    stock.drawing count = ([], stock) := by
  have same : { stock with deck := [] } = stock := by rw [← deck]
  rw [drawing_of_not_runsDry (by simp [RunsDry, pile])]
  simp [deck, same]

theorem drawing_of_cons (deck : stock.deck = card :: rest) (count : Nat) :
    stock.drawing (count + 1) =
      (.drew card :: ({ stock with deck := rest }.drawing count).1,
        ({ stock with deck := rest }.drawing count).2) := by
  -- one card less on the deck and one less to draw: it runs dry just when it did
  have same : stock.RunsDry (count + 1) ↔ { stock with deck := rest }.RunsDry count := by
    simp [RunsDry, deck]
  by_cases dry : stock.RunsDry (count + 1)
  · rw [drawing_of_runsDry dry, drawing_of_runsDry (same.1 dry)]
    simp [deck, turnOver]
  · rw [drawing_of_not_runsDry dry, drawing_of_not_runsDry (mt same.2 dry)]
    simp [deck]

theorem drawing_of_turnOver (deck : stock.deck = []) (pile : stock.pile ≠ []) (count : Nat) :
    stock.drawing (count + 1) =
      (.turnedOver :: (stock.turnOver.drawing (count + 1)).1,
        (stock.turnOver.drawing (count + 1)).2) := by
  have dry : stock.RunsDry (count + 1) := by simp [RunsDry, deck, pile]
  have lasts : ¬stock.turnOver.RunsDry (count + 1) := by simp [RunsDry, turnOver]
  rw [drawing_of_runsDry dry, drawing_of_not_runsDry lasts]
  simp [deck]

/-! ## The stock that is drawn from -/

theorem length_turnOver (stock : Stock) : stock.turnOver.deck.length = stock.pile.length := by
  simp [turnOver]

/-- A stock that is ready to be drawn from shows its next card, or is used up. -/
theorem replenish_cases (stock : Stock) :
    (∃ card rest, stock.deck = card :: rest ∧ stock.replenish = stock) ∨
    (∃ card rest, stock.deck = [] ∧ stock.pile ≠ [] ∧ stock.turnOver.deck = card :: rest ∧
      stock.replenish = stock.turnOver) ∨
    stock.deck = [] ∧ stock.pile = [] ∧ stock.replenish = stock := by
  cases deck : stock.deck with
  | cons card rest => exact .inl ⟨card, rest, rfl, by simp [replenish, deck]⟩
  | nil =>
    by_cases pile : stock.pile = []
    · exact .inr (.inr ⟨rfl, pile, by simp [replenish, pile]⟩)
    · have some_cards : stock.turnOver.deck ≠ [] := by
        apply List.ne_nil_of_length_pos
        rw [length_turnOver]
        exact List.length_pos_iff.2 pile
      rcases List.exists_cons_of_ne_nil some_cards with ⟨card, rest, renewed⟩
      exact .inr (.inl ⟨card, rest, rfl, pile, renewed, if_pos ⟨deck, pile⟩⟩)

theorem draw_of_cons (ready : stock.replenish.deck = card :: rest) (count : Nat) :
    stock.draw (count + 1) =
      (card :: ({ stock.replenish with deck := rest }.draw count).1,
        ({ stock.replenish with deck := rest }.draw count).2) := by
  rw [draw, ready]

theorem draw_of_nil (ready : stock.replenish.deck = []) (count : Nat) :
    stock.draw (count + 1) = ([], stock) := by
  rw [draw, ready]

theorem draw_eq (count : Nat) (stock : Stock) :
    stock.draw count = ((stock.drawing count).1.filterMap Incident.card?, (stock.drawing count).2) := by
  induction count generalizing stock with
  | zero => simp [draw]
  | succ count ih =>
    rcases stock.replenish_cases with
      ⟨card, rest, deck, ready⟩ | ⟨card, rest, deck, pile, renewed, ready⟩ | ⟨deck, pile, ready⟩
    · rw [draw_of_cons (by rw [ready, deck]), ih, drawing_of_cons deck, ready]
      rfl
    · rw [draw_of_cons (by rw [ready, renewed]), ih, drawing_of_turnOver deck pile,
        drawing_of_cons renewed, ready]
      rfl
    · rw [draw_of_nil (by rw [ready, deck]), drawing_of_empty deck pile]
      rfl

theorem count_turnedOver (stock : Stock) (count : Nat) :
    (stock.drawing count).1.count .turnedOver = if stock.RunsDry count then 1 else 0 := by
  split
  · next dry =>
    rw [drawing_of_runsDry dry, List.count_append, List.count_cons, Incident.count_turnedOver_drew,
      Incident.count_turnedOver_drew]
    rfl
  · next lasts => rw [drawing_of_not_runsDry lasts, Incident.count_turnedOver_drew]

theorem turnedOver_mem_iff : .turnedOver ∈ (stock.drawing count).1 ↔ stock.RunsDry count := by
  rw [← List.count_pos_iff, count_turnedOver]
  split <;> simpa

theorem draw_of_runsDry (dry : stock.RunsDry count) :
    stock.draw count =
      (stock.deck ++ stock.turnOver.deck.take (count - stock.deck.length),
        { stock.turnOver with deck := stock.turnOver.deck.drop (count - stock.deck.length) }) := by
  rw [draw_eq, drawing_of_runsDry dry]
  simp only [List.filterMap_append, Incident.filterMap_drew]
  rw [List.filterMap_cons_none rfl, Incident.filterMap_drew]

theorem draw_of_not_runsDry (lasts : ¬stock.RunsDry count) :
    stock.draw count = (stock.deck.take count, { stock with deck := stock.deck.drop count }) := by
  rw [draw_eq, drawing_of_not_runsDry lasts, Incident.filterMap_drew]

/-- Whoever draws gets as many cards as were asked for, or all there are. -/
theorem length_draw (count : Nat) (stock : Stock) :
    (stock.draw count).1.length = min count stock.cards.length := by
  by_cases dry : stock.RunsDry count
  · rw [draw_of_runsDry dry]
    simp only [cards, List.length_append, List.length_take, length_turnOver]
    have short := dry.1
    omega
  · rw [draw_of_not_runsDry dry]
    simp only [cards, List.length_append, List.length_take]
    have enough : count ≤ stock.deck.length ∨ stock.pile.length = 0 := by
      simpa [RunsDry, or_iff_not_imp_left] using dry
    omega

/-! ## The whole drawing -/

/-- So many cards come off the stock, or as many as there are: first the deck, and behind it, if it
runs dry, the pile turned over and shuffled. -/
structure Draws (stock : Stock) (count : Nat) (course : List Incident) (cards : List Card)
    (left : Stock) : Prop where
  drawn : course.filterMap Incident.card? = cards
  length : cards.length = min count (stock.deck.length + stock.pile.length)
  turned : .turnedOver ∈ course ↔ stock.deck.length < count ∧ stock.pile ≠ []
  once : course.count .turnedOver ≤ 1
  /-- All of the deck is drawn before the pile is turned over. -/
  after_deck : ∀ before behind, course = before ++ .turnedOver :: behind →
    before = stock.deck.map .drew
  deck_only : .turnedOver ∉ course → cards = stock.deck.take count
  /-- The shuffled pile is drawn from its end. -/
  deck_then_pile : .turnedOver ∈ course → cards = stock.deck ++
    ((stock.recycles.headD .keep).rearrange stock.pile.reverse).reverse.take
      (count - stock.deck.length)
  conserved : (cards ++ left.deck ++ left.pile).Perm (stock.deck ++ stock.pile)
  pile_kept : .turnedOver ∉ course → left.pile = stock.pile
  pile_used : .turnedOver ∈ course → left.pile = []
  shuffles : left.recycles = stock.recycles.drop (course.count .turnedOver)

theorem draws_drawing (stock : Stock) (count : Nat) :
    stock.Draws count (stock.drawing count).1 (stock.draw count).1 (stock.draw count).2 := by
  have turned := @turnedOver_mem_iff stock count
  have turns := stock.count_turnedOver count
  refine {
    drawn := by rw [draw_eq], length := by simpa [cards] using length_draw count stock, turned,
    once := ?_, after_deck := ?_, deck_only := ?_, deck_then_pile := ?_
    conserved := by simpa [cards] using stock.draw_perm count, pile_kept := ?_, pile_used := ?_
    shuffles := ?_ }
  · rw [turns]
    split <;> simp
  · intro before behind course
    have dry : stock.RunsDry count := turned.1 (by simp [course])
    rw [drawing_of_runsDry dry] at course
    -- the record holds no other turning over, neither before this one nor behind it
    refine ((List.append_cons_inj_of_notMem ?_ ?_).1 course).1.symm
    · exact Incident.turnedOver_notMem_drew _
    · exact Incident.turnedOver_notMem_drew _
  · intro kept
    rw [draw_of_not_runsDry (mt turned.2 kept)]
  · intro dry
    rw [draw_of_runsDry (turned.1 dry)]
    rfl
  · intro kept
    rw [draw_of_not_runsDry (mt turned.2 kept)]
  · intro dry
    rw [draw_of_runsDry (turned.1 dry)]
    rfl
  · rw [turns]
    split
    · next dry =>
      rw [draw_of_runsDry dry, List.drop_one]
      rfl
    · next lasts => rw [draw_of_not_runsDry lasts, List.drop_zero]

end Stock

/-! ## Card by card -/

namespace Cells

variable {cells : Cells}

/-- Renews an empty deck from the pile. -/
def renew : InPlace (List Incident) := do
  if (← get).stock.deck = [] ∧ (← get).stock.pile ≠ [] then
    modify fun cells => { cells with stock := cells.stock.turnOver }
    return [.turnedOver]
  else return []

/-- Takes the next card off the deck. -/
def takeNext : InPlace (Option Card) := do
  match (← get).stock.deck with
  | [] => return none
  | card :: rest =>
    modify fun cells => { cells with stock := { cells.stock with deck := rest } }
    return some card

/-- Draws card by card, until nothing is left, and keeps a record of what happens. -/
def drawCards : Nat → InPlace (List Incident)
  | 0 => return []
  | count + 1 => do
    let renewed ← renew
    match ← takeNext with
    | none => return renewed
    | some card => return renewed ++ .drew card :: (← drawCards count)

theorem renew_of_dry (dry : cells.stock.deck = [] ∧ cells.stock.pile ≠ []) :
    renew cells = .ok [.turnedOver] { cells with stock := cells.stock.turnOver } := by
  rw [renew, bind_of_ok (get_eq cells), bind_of_ok (get_eq cells), if_pos dry]
  rfl

theorem renew_of_not_dry (ready : ¬(cells.stock.deck = [] ∧ cells.stock.pile ≠ [])) :
    renew cells = .ok [] cells := by
  rw [renew, bind_of_ok (get_eq cells), bind_of_ok (get_eq cells), if_neg ready]
  rfl

theorem takeNext_of_cons {card : Card} {rest : List Card} (deck : cells.stock.deck = card :: rest) :
    takeNext cells =
      .ok (some card) { cells with stock := { cells.stock with deck := rest } } := by
  rw [takeNext, bind_of_ok (get_eq cells), deck]
  rfl

theorem takeNext_of_nil (deck : cells.stock.deck = []) : takeNext cells = .ok none cells := by
  rw [takeNext, bind_of_ok (get_eq cells), deck]
  rfl

/-- The cards come one by one as the closed form says, and no other cell is written. -/
theorem drawCards_eq (count : Nat) (cells : Cells) :
    drawCards count cells =
      .ok (cells.stock.drawing count).1 { cells with stock := (cells.stock.drawing count).2 } := by
  -- what is still to be drawn is a drawing of its own, from the stock as the first card leaves it
  induction count generalizing cells with
  | zero =>
    rw [Stock.drawing_zero]
    rfl
  | succ count ih =>
    rw [drawCards]
    rcases cells.stock.replenish_cases with
      ⟨card, rest, deck, -⟩ | ⟨card, rest, deck, pile, renewed, -⟩ | ⟨deck, pile, -⟩
    · rw [bind_of_ok (renew_of_not_dry (by simp [deck])), bind_of_ok (takeNext_of_cons deck),
        Stock.drawing_of_cons deck]
      simp only [bind_of_ok (ih _)]
      rfl
    · rw [bind_of_ok (renew_of_dry ⟨deck, pile⟩), bind_of_ok (takeNext_of_cons renewed),
        Stock.drawing_of_turnOver deck pile, Stock.drawing_of_cons renewed]
      simp only [bind_of_ok (ih _)]
      rfl
    · rw [bind_of_ok (renew_of_not_dry (by simp [pile])), bind_of_ok (takeNext_of_nil deck),
        Stock.drawing_of_empty deck pile]
      rfl

end Cells

/-! ## Draws in a game -/

namespace Game

variable {game next : Game} {player : PlayerId} {cards : List Card}

/-- The player gets so many cards from the stock, or as many as there are. The top card is not among
them, and everything else on the table stays as it is. -/
structure Supplies (game : Game) (player : PlayerId) (count : Nat) (cards : List Card)
    (next : Game) : Prop where
  draws : ∃ course, game.stock.Draws count course cards next.stock
  top : next.top = game.top
  covered : game.top ∉ game.stock.cards → game.top ∉ cards
  hands : ∀ asked, next.hand? asked =
    if asked = player then (game.hand? player).map (· ++ cards) else game.hand? asked
  players : next.players = game.players
  leaderboard : next.leaderboard = game.leaderboard

theorem supplies_of_drawFor {place count : Nat} (found : seatOf? game.seats player = some place)
    (drawn : game.drawFor place count = (cards, next)) :
    game.Supplies player count cards next := by
  have hands := hand?_of_drawFor found count
  cases drawn
  refine ⟨⟨_, game.stock.draws_drawing count⟩, rfl, fun absent drawn => ?_, hands, ?_, rfl⟩
  · apply absent
    exact (game.stock.draw_perm count).subset (List.mem_append_left _ drawn)
  · rcases seatOf?_eq_some found with ⟨before, seat, behind, seated, rfl, -, -⟩
    simp [Game.players, seated]

theorem top_notMem_stock (nodup : game.allCards.Nodup) : game.top ∉ game.stock.cards := by
  intro twice
  have once := game.allCards_perm.nodup_iff.1 nodup
  exact (List.nodup_append.1 once).2.2 _ twice _ (by simp) rfl

/-- Drawing hands out as many cards as are asked for, or all that lie in the deck and the pile. They
come off the deck in its order, and when it runs dry, the pile is turned over and shuffled, once, and
the rest comes off that. Nothing else on the table changes, so the card on top is never handed out,
neither to whoever draws nor to whoever gives in. -/
theorem draws_exact :
    (∀ cells count, ∃ course,
      Cells.drawCards count cells = .ok course { cells with stock := (cells.stock.draw count).2 } ∧
      cells.stock.Draws count course (cells.stock.draw count).1 (cells.stock.draw count).2) ∧
    (∀ game player cards next, Game.drawCard game player = .ok (cards, next) →
      game.Supplies player 1 cards next) ∧
    (∀ game player cards next, Game.pass game player = .ok (.drew cards, next) →
      ∃ due, game.pending = some (.draw due) ∧ game.Supplies player due cards next) ∧
    ∀ players wanted chance start, Game.deal players wanted chance = .ok start →
      ∀ moves player cards next,
        (start.run moves).drawCard player = .ok (cards, next) ∨
          (start.run moves).pass player = .ok (.drew cards, next) →
        (start.run moves).top ∉ cards := by
  have drew : ∀ game player cards next, Game.drawCard game player = .ok (cards, next) →
      game.Supplies player 1 cards next := by
    intro game player cards next accepted
    rcases drawCard_eq_ok accepted with ⟨turn, allowed, -, drawn⟩
    exact supplies_of_drawFor (turnOf_eq_ok_iff.1 allowed).2 drawn
  have gaveIn : ∀ game player cards next, Game.pass game player = .ok (.drew cards, next) →
      ∃ due, game.pending = some (.draw due) ∧ game.Supplies player due cards next := by
    intro game player cards next accepted
    rcases pass_eq_drew accepted with ⟨turn, due, allowed, pending, drawn⟩
    rcases turnOf_eq_ok_iff.1 allowed with ⟨onTurn, found⟩
    exact ⟨due, by rw [Game.pending, onTurn, pending], supplies_of_drawFor found drawn⟩
  refine ⟨fun cells count => ?_, drew, gaveIn, ?_⟩
  · refine ⟨(cells.stock.drawing count).1, ?_, cells.stock.draws_drawing count⟩
    rw [Cells.drawCards_eq, Stock.draw_eq]
  · intro players wanted chance start dealt moves player cards next accepted
    have whole := (allCards_run_perm start moves).trans (allCards_deal_perm dealt)
    have absent := top_notMem_stock (whole.nodup_iff.2 nodup_standardDeck)
    rcases accepted with drawn | passed
    · exact (drew _ _ _ _ drawn).covered absent
    · rcases gaveIn _ _ _ _ passed with ⟨due, -, supplied⟩
      exact supplied.covered absent

/-- The deck is used up after one card; both the player who draws then and the player who gives in
to a seven get what lay in the pile. -/
theorem draws_exact_past_last_card :
    ∃ start, Game.deal [1, 2] 15 default = .ok start ∧
      (let game := start.run [.draw 1, .play 2 ⟨.hearts, .king⟩]
      ∃ next, game.drawCard 1 = .ok ([⟨.hearts, .eight⟩], next) ∧
        game.Supplies 1 1 [⟨.hearts, .eight⟩] next ∧ game.top ∉ [⟨.hearts, .eight⟩]) ∧
      let game := start.run [.draw 1, .play 2 ⟨.hearts, .nine⟩, .play 1 ⟨.hearts, .seven⟩]
      ∃ next, game.pass 2 = .ok (.drew [⟨.hearts, .nine⟩, ⟨.hearts, .eight⟩], next) ∧
        ∃ due, game.pending = some (.draw due) ∧
          game.Supplies 2 due [⟨.hearts, .nine⟩, ⟨.hearts, .eight⟩] next := by
  refine ⟨_, rfl, ⟨_, rfl, draws_exact.2.1 _ _ _ _ rfl, ?_⟩, ⟨_, rfl, draws_exact.2.2.1 _ _ _ _ rfl⟩⟩
  exact draws_exact.2.2.2 [1, 2] 15 default _ rfl _ 1 _ _ (.inl rfl)

end Game

end CardTable
