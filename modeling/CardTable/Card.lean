/-!
# Cards

The thirty-two cards of the game: four suits of eight ranks. A card is written as two characters,
first its suit and then its rank, and `Card.parse?` reads exactly what `Card.text` writes.
-/

namespace CardTable

/-- The four suits, lowest first. -/
inductive Suit
  | hearts
  | clubs
  | spades
  | diamonds
  deriving DecidableEq, Repr, Inhabited

/-- The eight ranks, lowest first. -/
inductive Rank
  | seven
  | eight
  | nine
  | ten
  | unter
  | ober
  | king
  | ace
  deriving DecidableEq, Repr, Inhabited

namespace Suit

def all : List Suit := [hearts, clubs, spades, diamonds]

/-- How many suits are lower. -/
def index : Suit → Nat
  | hearts => 0
  | clubs => 1
  | spades => 2
  | diamonds => 3

/-- The character that stands for the suit in a card's text. -/
def symbol : Suit → Char
  | hearts => 'S'
  | clubs => 'Z'
  | spades => 'L'
  | diamonds => 'K'

def ofSymbol? (symbol : Char) : Option Suit :=
  all.find? fun suit => suit.symbol = symbol

@[simp]
theorem mem_all (suit : Suit) : suit ∈ all := by
  cases suit <;> decide

@[simp]
theorem ofSymbol?_symbol (suit : Suit) : ofSymbol? suit.symbol = some suit := by
  cases suit <;> decide

theorem symbol_of_ofSymbol? {symbol : Char} {suit : Suit} (found : ofSymbol? symbol = some suit) :
    suit.symbol = symbol := by
  simpa using List.find?_some found

end Suit

namespace Rank

def all : List Rank := [seven, eight, nine, ten, unter, ober, king, ace]

/-- How many ranks are lower. -/
def index : Rank → Nat
  | seven => 0
  | eight => 1
  | nine => 2
  | ten => 3
  | unter => 4
  | ober => 5
  | king => 6
  | ace => 7

/-- The character that stands for the rank in a card's text; the ten is a single `0`. -/
def symbol : Rank → Char
  | seven => '7'
  | eight => '8'
  | nine => '9'
  | ten => '0'
  | unter => 'J'
  | ober => 'Q'
  | king => 'K'
  | ace => 'A'

def ofSymbol? (symbol : Char) : Option Rank :=
  all.find? fun rank => rank.symbol = symbol

@[simp]
theorem mem_all (rank : Rank) : rank ∈ all := by
  cases rank <;> decide

@[simp]
theorem ofSymbol?_symbol (rank : Rank) : ofSymbol? rank.symbol = some rank := by
  cases rank <;> decide

theorem symbol_of_ofSymbol? {symbol : Char} {rank : Rank} (found : ofSymbol? symbol = some rank) :
    rank.symbol = symbol := by
  simpa using List.find?_some found

end Rank

/-- A playing card. A deck holds each combination of suit and rank once. -/
structure Card where
  suit : Suit
  rank : Rank
  deriving DecidableEq, Repr, Inhabited

namespace Card

/-- Two cards match when they share the suit or the rank. -/
def Matches (card other : Card) : Prop :=
  card.suit = other.suit ∨ card.rank = other.rank

instance (card other : Card) : Decidable (card.Matches other) :=
  inferInstanceAs (Decidable (_ ∨ _))

/-- The place of the card in a sorted deck: by suit, and by rank within a suit. -/
def position (card : Card) : Nat :=
  card.suit.index * 8 + card.rank.index

/-- Cards compare by suit first and rank second. -/
instance : Ord Card where
  compare card other := compare card.position other.position

/-- The two characters a card is written with. -/
def symbols (card : Card) : List Char :=
  [card.suit.symbol, card.rank.symbol]

def text (card : Card) : String :=
  String.ofList card.symbols

/-- The card that two characters spell; no other text spells a card. -/
def ofSymbols? : List Char → Option Card
  | [suitSymbol, rankSymbol] => do
    let suit ← Suit.ofSymbol? suitSymbol
    let rank ← Rank.ofSymbol? rankSymbol
    return ⟨suit, rank⟩
  | _ => none

def parse? (text : String) : Option Card :=
  ofSymbols? text.toList

@[simp]
theorem ofSymbols?_symbols (card : Card) : ofSymbols? card.symbols = some card := by
  simp [symbols, ofSymbols?]

theorem symbols_of_ofSymbols? {characters : List Char} {card : Card}
    (read : ofSymbols? characters = some card) : characters = card.symbols := by
  unfold ofSymbols? at read
  split at read
  · simp only [Option.bind_eq_bind, Option.bind_eq_some_iff] at read
    obtain ⟨suit, suitRead, rank, rankRead, made⟩ := read
    cases made
    simp [symbols, Suit.symbol_of_ofSymbol? suitRead, Rank.symbol_of_ofSymbol? rankRead]
  · simp at read

/-- A text spells a card exactly when it is that card's written form. -/
theorem parse?_eq_some_iff {text : String} {card : Card} :
    parse? text = some card ↔ text = card.text := by
  constructor
  · intro read
    rw [Card.text, ← symbols_of_ofSymbols? read, String.ofList_toList]
  · rintro rfl
    simp [parse?, Card.text]

end Card

end CardTable
