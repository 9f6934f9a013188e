import CardTable.Wire.Notice
import Mathlib.Algebra.BigOperators.Group.List.Basic
import Mathlib.Algebra.GroupWithZero.Nat

/-!
# What a client makes of its lines

A client sees the lines that are queued for its connection, and knows which cards it has asked to
play. From this it can keep two accounts: who sits in its room, and how its table stands. An account
is opened by a line that shows or starts something, and goes on from there line by line.
-/

namespace CardTable

/-! ## Words -/

/-- Something that a client learns: a line, or, where the line says that a card was accepted, which
card it was. -/
inductive Word
  | said (notice : Notice)
  | laid (card : Card)
  deriving DecidableEq, Repr

namespace Word

/-- The line that was heard. -/
def notice : Word → Notice
  | said notice => notice
  | laid _ => .ok .play

def card? : Word → Option Card
  | said _ => none
  | laid card => some card

end Word

/-- The lines of a connection, each acceptance of a card with the card. The cards that the client has
asked to play are accepted in their order. -/
def paired : List Card → List Notice → List Word
  | card :: cards, .ok .play :: later => .laid card :: paired cards later
  | cards, notice :: later => .said notice :: paired cards later
  | _, [] => []

theorem paired_cons {notice : Notice} (other : notice ≠ .ok .play) (cards : List Card)
    (later : List Notice) : paired cards (notice :: later) = .said notice :: paired cards later := by
  rw [paired]
  rintro _ _ _ rfl
  exact other rfl

/-- Words can be told from the lines and the cards in them. -/
theorem paired_eq {words : List Word} (plain : ∀ word ∈ words, word ≠ .said (.ok .play)) :
    paired (words.filterMap Word.card?) (words.map Word.notice) = words := by
  induction words with
  | nil => rfl
  | cons word words ih =>
    rw [List.forall_mem_cons] at plain
    cases word with
    | said notice =>
      have other : notice ≠ .ok .play := by
        rintro rfl
        exact plain.1 rfl
      simp only [List.map_cons, Word.notice, List.filterMap_cons, Word.card?]
      rw [paired_cons other, ih plain.2]
    | laid card =>
      simp only [List.map_cons, Word.notice, List.filterMap_cons, Word.card?, paired]
      rw [ih plain.2]

/-! ## Who sits in the room -/

namespace Notice

/-- The occupants that a picture of a room shows. -/
def roster? : Notice → Option (List Occupant)
  | room view | state (.room view) | state (.game view _ _) => some view.occupants
  | _ => none

/-- The answers after which a client may sit in another room than before. -/
def Enters : Notice → Prop
  | ok .name | ok .createRoom | ok .joinRoom => True
  | _ => False

theorem enters_iff {notice : Notice} :
    notice.Enters ↔ notice = ok .name ∨ notice = ok .createRoom ∨ notice = ok .joinRoom := by
  cases notice with
  | ok command => cases command <;> simp [Enters]
  | _ => simp [Enters]

instance : DecidablePred Enters := fun _ => decidable_of_iff _ enters_iff.symm

/-- The roster after a line. -/
def onRoster (roster : List Occupant) : Notice → List Occupant
  | join nickname => roster ++ [{ nickname, awake := true }]
  | leave nickname => roster.filter fun occupant => occupant.nickname ≠ nickname
  | sleep nickname => roster.map fun occupant =>
      if occupant.nickname = nickname then { occupant with awake := false } else occupant
  | awake nickname => roster.map fun occupant =>
      if occupant.nickname = nickname then { occupant with awake := true } else occupant
  | _ => roster

end Notice

/-! ## How the table stands -/

namespace Word

/-- What a word says about the turn. -/
def turn? : Word → Option TurnView
  | said (.turn turn) => some turn
  | said (.state (.game _ _ turn)) => turn
  | _ => none

/-- The hand that is shown when an account of a table is opened; the start of a game shows none. -/
def shownHand : Word → List Card
  | said (.state (.game _ hand _)) => hand
  | _ => []

/-- The own hand after a word. -/
def onHand (hand : List Card) : Word → List Card
  | said (.hand dealt) => dealt
  | said (.cards drawn) => hand ++ drawn
  | laid card => hand.erase card
  | _ => hand

/-- How many cards everybody was dealt. -/
def dealt? : Word → Option Nat
  | said (.hand dealt) => some dealt.length
  | _ => none

/-- How many cards the others see somebody play. -/
def playedBy (nickname : String) : Word → Nat
  | said (.played player _) => if player = nickname then 1 else 0
  | _ => 0

/-- How many cards the others see somebody draw. -/
def drawnBy (nickname : String) : Word → Nat
  | said (.drew player count) => if player = nickname then count else 0
  | _ => 0

/-- A game starts. -/
def Starts (word : Word) : Prop :=
  word = said .gameStart
  deriving Decidable

/-- A word that shows a game, or the start of one. -/
def ShowsGame : Word → Prop
  | said .gameStart | said (.state (.game _ _ _)) => True
  | _ => False

end Word

/-- The last thing that was said about the turn. -/
def lastTurn? (words : List Word) : Option TurnView :=
  (words.filterMap Word.turn?).getLast?

/-- The own hand, from what the first word shows. -/
def handIn : List Word → List Card
  | [] => []
  | first :: later => later.foldl Word.onHand first.shownHand

def dealtIn? (words : List Word) : Option Nat :=
  (words.filterMap Word.dealt?).head?

def playedIn (words : List Word) (nickname : String) : Nat :=
  (words.map (Word.playedBy nickname)).sum

def drawnIn (words : List Word) (nickname : String) : Nat :=
  (words.map (Word.drawnBy nickname)).sum

section Append

variable {words : List Word} {word : Word} {nickname : String}

theorem lastTurn?_append (words later : List Word) :
    lastTurn? (words ++ later) = (lastTurn? later).or (lastTurn? words) := by
  rw [lastTurn?, List.filterMap_append, List.getLast?_append]
  rfl

theorem handIn_append (nonempty : words ≠ []) (later : List Word) :
    handIn (words ++ later) = later.foldl Word.onHand (handIn words) := by
  cases words with
  | nil => exact (nonempty rfl).elim
  | cons first rest => rw [List.cons_append, handIn, handIn, List.foldl_append]

theorem dealtIn?_append (words later : List Word) :
    dealtIn? (words ++ later) = (dealtIn? words).or (dealtIn? later) := by
  rw [dealtIn?, List.filterMap_append, List.head?_append]
  rfl

theorem playedIn_append (words later : List Word) (nickname : String) :
    playedIn (words ++ later) nickname = playedIn words nickname + playedIn later nickname := by
  simp [playedIn]

theorem drawnIn_append (words later : List Word) (nickname : String) :
    drawnIn (words ++ later) nickname = drawnIn words nickname + drawnIn later nickname := by
  simp [drawnIn]

end Append

/-! ## Accounts -/

section Accounts

variable {α : Type} {opens closes : α → Prop} {right right' : List α → Prop}

/-- Every account that is opened somewhere, and not closed again, is right. -/
def Accounts (opens closes : α → Prop) (right : List α → Prop) (words : List α) : Prop :=
  ∀ before first later, words = before ++ first :: later → opens first →
    (∀ word ∈ later, ¬closes word) → right (first :: later)

theorem accounts_of_not_opens {words : List α} (silent : ∀ word ∈ words, ¬opens word) :
    Accounts opens closes right words := by
  rintro before first later rfl opened
  exact (silent first (by simp) opened).elim

/-- Accounts are right after some more words if those that were right are carried on rightly, and
those that are opened by the new words are right. -/
theorem Accounts.append {words later : List α} (accounts : Accounts opens closes right words)
    (carried : ∀ account, account ≠ [] → right account → (∀ word ∈ later, ¬closes word) →
      right' (account ++ later))
    (opened : Accounts opens closes right' later) : Accounts opens closes right' (words ++ later) := by
  intro before first rest split opens_first open_still
  -- The account is opened by a new word, or by an old one and goes on through all new words.
  rcases List.append_eq_append_iff.1 split with ⟨more, rfl, rfl⟩ | ⟨more, rfl, ends⟩
  · exact opened more first rest rfl opens_first open_still
  · cases more with
    | nil =>
      rw [List.nil_append] at ends
      exact opened [] first rest ends.symm opens_first open_still
    | cons head more =>
      rw [List.cons_append, List.cons.injEq] at ends
      rcases ends with ⟨rfl, rfl⟩
      rw [List.forall_mem_append] at open_still
      exact carried (first :: more) (List.cons_ne_nil _ _)
        (accounts before first more rfl opens_first open_still.1) open_still.2

end Accounts

end CardTable
