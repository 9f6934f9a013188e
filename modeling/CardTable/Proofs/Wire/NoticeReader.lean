import CardTable.Wire.Notice
import Std.Data.String.ToNat

/-!
# Reading notices

A reader for what the server says: it takes a notice off the words of a line again. Every part of a
notice says by its first word, or by the number in front of it, where it ends, so a part is read back
whatever comes behind it, and whatever the nicknames in it look like. Only the turn at the end of a
picture may be missing, and nothing comes behind that.
-/

namespace CardTable

/-- Takes a part off the front of some words. -/
abbrev WordReader (α : Type) := StateT (List String) Option α

namespace WordReader

variable {α : Type}

/-- The reader takes off just what has been written, whatever comes behind it. -/
def Reads (reader : WordReader α) (write : α → List String) : Prop :=
  ∀ value rest, reader.run (write value ++ rest) = some (value, rest)

/-- One word, which stands for a value. -/
def word (value? : String → Option α) : WordReader α := do
  match ← get with
  | [] => failure
  | word :: rest =>
    set rest
    StateT.lift (value? word)

/-- A word that has to be there. -/
def keyword (text : String) : WordReader Unit :=
  word fun word => if word = text then some () else none

def number : WordReader Nat :=
  word String.toNat?

/-- So many parts, one behind the other. -/
def times (reader : WordReader α) : Nat → WordReader (List α)
  | 0 => return []
  | count + 1 => return (← reader) :: (← reader.times count)

/-- Parts behind their number. -/
def counted (reader : WordReader α) : WordReader (List α) := do
  reader.times (← number)

@[simp]
theorem run_word (value? : String → Option α) (text : String) (rest : List String) :
    (word value?).run (text :: rest) = (value? text).map (·, rest) := by
  cases found : value? text <;> simp [word, found]

@[simp]
theorem run_keyword (text : String) (rest : List String) :
    (keyword text).run (text :: rest) = some ((), rest) := by
  simp [keyword]

@[simp]
theorem run_number (value : Nat) (rest : List String) :
    number.run (Notice.numberWord value :: rest) = some (value, rest) := by
  simp [number, Notice.numberWord]

theorem Reads.times {reader : WordReader α} {write : α → List String} (reads : reader.Reads write)
    (values : List α) (rest : List String) :
    (reader.times values.length).run (values.flatMap write ++ rest) = some (values, rest) := by
  induction values with
  | nil => rfl
  | cons value values ih =>
    have first := reads value (values.flatMap write ++ rest)
    simp [WordReader.times, first, ih]

/-- A list is read back from its length and its parts. -/
theorem Reads.counted {reader : WordReader α} {write : α → List String}
    (reads : reader.Reads write) :
    reader.counted.Reads fun values =>
      Notice.numberWord values.length :: values.flatMap write := by
  intro values rest
  simp [WordReader.counted, reads.times]

/-! ## The parts of a notice -/

def card : WordReader Card :=
  word Card.parse?

def roomState : WordReader RoomState :=
  word fun word => [.waiting, .playing, .finished].find? fun state : RoomState => state.text = word

def command : WordReader Command :=
  word fun word => [.name, .joinRoom, .createRoom, .leaveRoom, .play].find?
    fun command : Command => command.verb.text = word

def summary : WordReader RoomSummary :=
  return { id := ← number, state := ← roomState }

def occupant : WordReader Occupant :=
  return {
    nickname := ← word some
    awake := ← word fun word =>
      if word = "awake" then some true else if word = "sleep" then some false else none }

/-- A room behind its first word. -/
def roomBody : WordReader RoomView := do
  let id ← number
  let state ← roomState
  keyword "PLAYERS"
  return { id, state, occupants := ← occupant.counted }

/-- A turn behind its first word. -/
def turnBody : WordReader TurnView := do
  let nickname ← word some
  keyword "TOP"
  return { nickname, top := ← card }

/-- A turn that may be missing; nothing comes behind it. -/
def lastTurn? : WordReader (Option TurnView) := do
  if (← get) = [] then return none
  keyword "TURN"
  return some (← turnBody)

def snapshot : WordReader Snapshot := do
  match ← word some with
  | "UNNAMED" => return .unnamed
  | "LOBBY" => return .lobby
  | "ROOM" =>
    keyword "ROOM"
    return .room (← roomBody)
  | "GAME" =>
    keyword "ROOM"
    let room ← roomBody
    keyword "HAND"
    return .game room (← card.counted) (← lastTurn?)
  | _ => failure

def notice : WordReader Notice := do
  match ← word some with
  | "PING" => return .ping
  | "OK" => return .ok (← command)
  | "FAIL" => return .fail (← command)
  | "ROOMS" => return .rooms (← summary.counted)
  | "ROOM" => return .room (← roomBody)
  | "JOIN" => return .join (← word some)
  | "LEAVE" => return .leave (← word some)
  | "GAME_START" => return .gameStart
  | "HAND" => return .hand (← card.counted)
  | "TURN" => return .turn (← turnBody)
  | "PLAYED" => return .played (← word some) (← card)
  | "SKIP" => return .skip (← word some)
  | "DRAWED" => return .drew (← word some) (← number)
  | "CARDS" => return .cards (← card.counted)
  | "WIN" => return .win
  | "LOSE" => return .lose
  | "LEADERBOARD" => return .leaderboard (← (word some).counted)
  | "SLEEP" => return .sleep (← word some)
  | "AWAKE" => return .awake (← word some)
  | "DEAD" => return .dead (← word some)
  | "STATE" => return .state (← snapshot)
  | _ => failure

@[simp]
theorem run_card (value : Card) (rest : List String) :
    card.run (value.text :: rest) = some (value, rest) := by
  simp [card, Card.parse?, Card.text]

@[simp]
theorem run_roomState (value : RoomState) (rest : List String) :
    roomState.run (value.text :: rest) = some (value, rest) := by
  cases value <;> simp [roomState, RoomState.text]

@[simp]
theorem run_command (value : Command) (rest : List String) :
    command.run (value.verb.text :: rest) = some (value, rest) := by
  cases value <;> simp [command, Command.verb, Verb.text]

theorem reads_card : card.Reads fun card => [card.text] :=
  run_card

theorem reads_nickname : (word some).Reads fun nickname => [nickname] :=
  fun nickname rest => by simp

theorem reads_summary :
    summary.Reads fun summary => [Notice.numberWord summary.id, summary.state.text] := by
  intro value rest
  simp [summary]

theorem reads_occupant : occupant.Reads fun occupant =>
    [occupant.nickname, if occupant.awake then "awake" else "sleep"] := by
  rintro ⟨nickname, awake⟩ rest
  cases awake <;> simp [occupant]

theorem reads_roomBody : roomBody.Reads fun view => (Notice.roomWords view).tail := by
  intro value rest
  have occupants := reads_occupant.counted value.occupants rest
  simp only [List.cons_append] at occupants
  simp [roomBody, Notice.roomWords, occupants]

theorem reads_turnBody : turnBody.Reads fun view => (Notice.turnWords view).tail := by
  intro value rest
  simp [turnBody, Notice.turnWords]

theorem reads_cards : card.counted.Reads Notice.cardsWords := by
  intro value rest
  have cards := reads_card.counted value rest
  simpa [Notice.cardsWords, ← List.map_eq_flatMap] using cards

theorem run_lastTurn? (turn : Option TurnView) :
    lastTurn?.run ((turn.map Notice.turnWords).getD []) = some (turn, []) := by
  cases turn with
  | none => rfl
  | some view =>
    have body := reads_turnBody view []
    simp only [Notice.turnWords, List.tail_cons, List.append_nil] at body
    simp [lastTurn?, Notice.turnWords, body]

theorem run_snapshot (value : Snapshot) :
    snapshot.run (Notice.snapshotWords value) = some (value, []) := by
  cases value with
  | unnamed => rfl
  | lobby => rfl
  | room view =>
    have body := reads_roomBody view []
    simp only [Notice.roomWords, List.cons_append, List.nil_append, List.tail_cons,
      List.append_nil] at body
    simp [snapshot, Notice.snapshotWords, Notice.roomWords, body]
  | game view held next =>
    have body := reads_roomBody view
    have hand := reads_cards held
    have turn := run_lastTurn? next
    simp only [Notice.roomWords, List.cons_append, List.nil_append, List.tail_cons] at body
    simp [snapshot, Notice.snapshotWords, Notice.roomWords, body, hand, turn]

/-- Every notice is read back from its words. -/
theorem run_notice (value : Notice) : notice.run value.words = some (value, []) := by
  cases value with
  | rooms summaries =>
    have list := reads_summary.counted summaries []
    rw [List.append_nil] at list
    simp [notice, Notice.words, list]
  | room view =>
    have body := reads_roomBody view []
    simp only [Notice.roomWords, List.cons_append, List.nil_append, List.tail_cons,
      List.append_nil] at body
    simp [notice, Notice.words, Notice.roomWords, body]
  | turn view =>
    have body := reads_turnBody view []
    simp only [Notice.turnWords, List.tail_cons, List.append_nil] at body
    simp [notice, Notice.words, Notice.turnWords, body]
  | hand dealt | cards dealt =>
    have list := reads_cards dealt []
    rw [List.append_nil] at list
    simp [notice, Notice.words, list]
  | leaderboard nicknames =>
    have list := reads_nickname.counted nicknames []
    simp only [List.append_nil, List.flatMap_singleton'] at list
    simp [notice, Notice.words, list]
  | state snapshot => simp [notice, Notice.words, run_snapshot]
  | ping | ok command | fail command | join nickname | leave nickname | gameStart
  | played nickname card | skip nickname | drew nickname count | win | lose | sleep nickname
  | awake nickname | dead nickname => simp [notice, Notice.words]

end WordReader

end CardTable
