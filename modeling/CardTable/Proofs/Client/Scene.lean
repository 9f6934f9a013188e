import CardTable.Game.Moves
import CardTable.Proofs.Client.Words

/-!
# What a seated client sees

A scene is a room as its players are meant to see it: who sits there, awake or asleep, and the game
if one is on. Whatever happens in a room takes one scene to the next, and each of its players is told
of it in words that depend only on which of the players it is. `Sees` lists everything that can
happen, with the words for one of the players; that the server says just these words is shown
elsewhere, and so is what a client can conclude from them.
-/

namespace CardTable

/-- Somebody at a table, and whether the others have been told that the player is awake. -/
structure Guest where
  player : PlayerId
  nickname : String
  awake : Bool
  deriving DecidableEq, Repr

namespace Guest

def occupant (guest : Guest) : Occupant where
  nickname := guest.nickname
  awake := guest.awake

/-- The guest, who is awake or asleep now if it is the given player. -/
def told (player : PlayerId) (awake : Bool) (guest : Guest) : Guest :=
  if guest.player = player then { guest with awake } else guest

@[simp]
theorem player_told (player : PlayerId) (awake : Bool) (guest : Guest) :
    (guest.told player awake).player = guest.player := by
  rw [told]
  split <;> rfl

@[simp]
theorem nickname_told (player : PlayerId) (awake : Bool) (guest : Guest) :
    (guest.told player awake).nickname = guest.nickname := by
  rw [told]
  split <;> rfl

end Guest

/-- A room as its players are meant to see it. -/
structure Scene where
  guests : List Guest
  /-- The game, while it is on. -/
  game : Option Game

namespace Scene

/-- Whose turn it is, and what lies on top. -/
def turn? (scene : Scene) : Option TurnView := do
  let game ← scene.game
  let current ← game.currentPlayer?
  let guest ← scene.guests.find? fun guest => guest.player = current
  return { nickname := guest.nickname, top := game.top }

/-- No two guests have the same nickname, or are the same player. -/
structure Distinct (scene : Scene) : Prop where
  nickname : ∀ {guest other}, guest ∈ scene.guests → other ∈ scene.guests →
    guest.nickname = other.nickname → guest = other
  player : ∀ {guest other}, guest ∈ scene.guests → other ∈ scene.guests →
    guest.player = other.player → guest = other

/-- The scene when somebody is known to be awake or asleep. -/
def told (scene : Scene) (player : PlayerId) (awake : Bool) : Scene :=
  { scene with guests := scene.guests.map (Guest.told player awake) }

/-- The scene when somebody has gone, with the game that goes on, if one does. -/
def without (scene : Scene) (player : PlayerId) (game : Option Game) : Scene where
  guests := scene.guests.filter fun guest => guest.player ≠ player
  game := game

theorem turn?_told (scene : Scene) (player : PlayerId) (awake : Bool) :
    (scene.told player awake).turn? = scene.turn? := by
  simp only [turn?, told, List.find?_map, Function.comp_def, Guest.player_told]
  congr 1
  funext game
  congr 1
  funext current
  cases scene.guests.find? fun guest => guest.player = current <;> simp

/-- What a picture of the room shows to one of its players. -/
inductive Pictured (scene : Scene) (me : PlayerId) : Notice → Prop
  | room {view : RoomView} (occupants : view.occupants = scene.guests.map Guest.occupant) :
      Pictured scene me (.room view)
  | state {view : RoomView} (occupants : view.occupants = scene.guests.map Guest.occupant) :
      Pictured scene me (.state (.room view))
  | game {view : RoomView} {hand : List Card}
      (occupants : view.occupants = scene.guests.map Guest.occupant)
      (own : ∀ game, scene.game = some game → game.hand? me = some hand) :
      Pictured scene me (.state (.game view hand scene.turn?))

end Scene

/-! ## Deeds -/

/-- What somebody does on turn, as far as it shows. -/
inductive Deed
  | lay (card : Card)
  | draw (cards : List Card)
  | skip
  deriving DecidableEq, Repr

namespace Deed

/-- What is said of a deed to whoever does it, and to the others. -/
def word (deed : Deed) (own : Bool) (nickname : String) : Word :=
  match deed, own with
  | lay card, true => .laid card
  | lay card, false => .said (.played nickname card)
  | draw cards, true => .said (.cards cards)
  | draw cards, false => .said (.drew nickname cards.length)
  | skip, _ => .said (.skip nickname)

def onHand (hand : List Card) : Deed → List Card
  | lay card => hand.erase card
  | draw cards => hand ++ cards
  | skip => hand

/-- A player does something to the own hand, and nothing happens to the other hands. -/
structure Done (deed : Deed) (game : Game) (player : PlayerId) (next : Game) : Prop where
  own : next.hand? player = (game.hand? player).map fun hand => deed.onHand hand
  others : ∀ other, other ≠ player → next.hand? other = game.hand? other
  held : ∀ card, deed = lay card → ∃ hand, game.hand? player = some hand ∧ card ∈ hand

end Deed

/-! ## What can happen -/

namespace Notice

/-- Lines that tell nothing about who sits where nor about the table. -/
def IsTalk : Notice → Prop
  | ping | fail _ | rooms _ | skip _ | win | lose | leaderboard _ | dead _ => True
  | ok command => command ≠ .play
  | state .unnamed | state .lobby => True
  | _ => False

/-- Lines that tell nothing about who sits where. -/
def KeepsRoster : Notice → Prop
  | room _ | state (.room _) | state (.game _ _ _) => False
  | join _ | leave _ | sleep _ | awake _ => False
  | _ => True

theorem IsTalk.keepsRoster {notice : Notice} (talk : notice.IsTalk) : notice.KeepsRoster := by
  cases notice with
  | state snapshot => cases snapshot <;> exact talk
  | _ => first | exact talk | trivial

theorem IsTalk.ne_ok_play {notice : Notice} (talk : notice.IsTalk) : notice ≠ .ok .play := by
  rintro rfl
  exact talk rfl

end Notice

/-- A line that does not matter; what is known of a card of one's own always does. -/
def Word.IsTalk : Word → Prop
  | said notice => notice.IsTalk
  | laid _ => False

/-- Something happens in a room, and one of its players, who is there before and after, sees it. -/
inductive Sees (me : PlayerId) (scene : Scene) : List Word → Scene → Prop
  | talk {words : List Word} (idle : ∀ word ∈ words, word.IsTalk) : Sees me scene words scene
  | picture {notice : Notice} (pictured : scene.Pictured me notice) :
      Sees me scene [.said notice] scene
  | join {guest : Guest} (awake : guest.awake = true) (waiting : scene.game = none) :
      Sees me scene [.said (.join guest.nickname)]
        { scene with guests := scene.guests ++ [guest] }
  | start {game : Game} {hand : List Card} {turn : TurnView} (own : game.hand? me = some hand)
      (alike : ∀ guest ∈ scene.guests, ∃ other, game.hand? guest.player = some other ∧
        other.length = hand.length)
      (next : ({ scene with game := some game } : Scene).turn? = some turn) :
      Sees me scene [.said .gameStart, .said (.hand hand), .said (.turn turn)]
        { scene with game := some game }
  | act {game after : Game} {actor : Guest} {deed : Deed} {words : List Word} {turn : TurnView}
      (distinct : scene.Distinct) (on : scene.game = some game) (member : actor ∈ scene.guests)
      (done : deed.Done game actor.player after) (idle : ∀ word ∈ words, word.IsTalk)
      (next : ({ scene with game := some after } : Scene).turn? = some turn) :
      Sees me scene
        (deed.word (actor.player = me) actor.nickname :: words ++ [.said (.turn turn)])
        { scene with game := some after }
  /-- The game is over. -/
  | close {words : List Word} (calm : ∀ word ∈ words, word.notice.KeepsRoster) :
      Sees me scene words { scene with game := none }
  | leave {leaver : Guest} {words : List Word} (distinct : scene.Distinct)
      (member : leaver ∈ scene.guests) (calm : ∀ word ∈ words, word.notice.KeepsRoster) :
      Sees me scene (.said (.leave leaver.nickname) :: words) (scene.without leaver.player none)
  | quit {game after : Game} {leaver : Guest} {turn : TurnView} (distinct : scene.Distinct)
      (on : scene.game = some game) (member : leaver ∈ scene.guests) (other : leaver.player ≠ me)
      (hands : ∀ player, player ≠ leaver.player → after.hand? player = game.hand? player)
      (next : (scene.without leaver.player (some after)).turn? = some turn) :
      Sees me scene [.said (.leave leaver.nickname), .said (.turn turn)]
        (scene.without leaver.player (some after))
  /-- Somebody falls asleep or wakes up; nobody is told so of oneself. -/
  | doze {guest : Guest} {awake : Bool} {words : List Word} (distinct : scene.Distinct)
      (member : guest ∈ scene.guests)
      (words_eq : words = if guest.player = me then []
        else [.said (if awake then .awake guest.nickname else .sleep guest.nickname)]) :
      Sees me scene words (scene.told guest.player awake)

end CardTable
