import CardTable.Proofs.Room.InPlace

/-!
# The life of a room

A room waits, plays and is finished, whatever is tried with it. Only a waiting room takes players in,
and every player gets out again: the departure says whether it has emptied the room, whether it has
ended the game, or neither.
-/

namespace CardTable.Room

variable {room : Room} {player : PlayerId}

/-! ## Departures -/

/-- The room had a game going, and now at most one player of it holds cards. -/
def RunsOut (room rest : Room) : Prop :=
  room.state = .playing ∧ ∃ game ∈ rest.game?, game.stillPlaying ≤ 1

/-- What it means for a room that a player leaves it. -/
structure Departs (room : Room) (player : PlayerId) (departure : Departure) (rest : Room) : Prop where
  players : rest.players = room.players.erase player
  emptied_iff : departure = .emptied ↔ rest.players = []
  endedGame_iff : departure = .endedGame ↔ rest.players ≠ [] ∧ room.RunsOut rest
  stayed_iff : departure = .stayed ↔ rest.players ≠ [] ∧ ¬room.RunsOut rest
  closed : departure = .endedGame → rest.state = .finished
  /-- A game that is over is not touched any more. -/
  untouched : room.state = .finished → rest.stage = room.stage

theorem departs_of_eq {departure : Departure} {rest : Room} {ends : Prop} [Decidable ends]
    (players : rest.players = room.players.erase player)
    (value : departure =
      if room.players.erase player = [] then .emptied else if ends then .endedGame else .stayed)
    (ends_iff : ends ↔ room.RunsOut rest) (closed : ends → rest.state = .finished)
    (untouched : room.state = .finished → rest.stage = room.stage) :
    room.Departs player departure rest := by
  rw [← players] at value
  have cases : (departure = .emptied ↔ rest.players = []) ∧
      (departure = .endedGame ↔ rest.players ≠ [] ∧ ends) ∧
      (departure = .stayed ↔ rest.players ≠ [] ∧ ¬ends) := by
    by_cases gone : rest.players = [] <;> by_cases ends' : ends <;> simp [value, gone, ends']
  rcases cases with ⟨emptied, endedGame, stayed⟩
  refine ⟨players, emptied, ?_, ?_, fun ended => closed (endedGame.1 ended).2, untouched⟩
  · rw [endedGame, ends_iff]
  · rw [stayed, ends_iff]

/-- Whoever is in a room can leave it, however its game stands. -/
theorem Orderly.exists_departs (orderly : room.Orderly) (member : player ∈ room.players) :
    ∃ departure rest, room.leave player = .ok (departure, rest) ∧
      room.Departs player departure rest := by
  by_cases on : ∃ game, room.stage = .playing game
  · rcases on with ⟨game, playing⟩
    rcases orderly.exists_rest member playing with ⟨rest, removed, -, settled⟩
    have state : room.state = .playing := by rw [Room.state, playing]; rfl
    have found : (if room.players.erase player = [] ∨ rest.isFinished then Stage.finished rest
        else .playing rest).game? = some rest := by
      split <;> rfl
    refine ⟨_, _, leave_of_playing member playing removed, departs_of_eq rfl rfl ?_ ?_ ?_⟩
    · refine isFinished_iff.trans (settled.finished_iff.trans ?_)
      constructor
      · exact fun few => ⟨state, rest, found, few⟩
      · rintro ⟨-, game, here, few⟩
        cases found.symm.trans here
        exact few
    · intro ended
      rw [Room.state, if_pos (.inr ended)]
      rfl
    · simp [state]
  · have state : room.state ≠ .playing := by
      rw [Room.state]
      cases stage : room.stage <;> simp_all [Stage.state]
    refine ⟨_, _, leave_of_not_playing member (not_exists.1 on), ?_⟩
    refine @departs_of_eq _ _ _ _ False _ rfl (by simp) ?_ False.elim fun _ => rfl
    simp [RunsOut, state]

/-! ## The whole life -/

/-- How a room and its cells stand at some time, and what any deed may do to them. -/
structure Lifecycle (config : RoomConfig) (room : Room) (cells : RoomCells) : Prop where
  holds : cells.Holds room
  distinct : room.players.Nodup
  few : room.players.length ≤ config.capacity
  game_iff : cells.game.isSome ↔ cells.state ≠ .waiting
  seated : ∀ game, room.stage = .playing game → game.players = room.players
  state : ∀ deed, (room.after deed).state = room.state ∨
    room.state.MayBecome (room.after deed).state
  newcomers : room.state ≠ .waiting → ∀ deed, (room.after deed).players.Sublist room.players
  leaves : ∀ player ∈ room.players, ∃ departure rest later,
    room.leave player = .ok (departure, rest) ∧ room.Departs player departure rest ∧
      RoomCells.leave player cells = .ok departure later ∧ later.Holds rest
  refused : ∀ deed error later, RoomCells.attempt deed cells = .error error later →
    later = cells ∧ room.after deed = room

theorem isSome_game_iff {cells : RoomCells} (holds : cells.Holds room) :
    cells.game.isSome ↔ cells.state ≠ .waiting := by
  have same : cells.game.isSome = room.game?.isSome := by
    rw [← holds.game, Option.isSome_map]
  rw [same, holds.state, Room.game?, Room.state]
  cases room.stage <;> simp [Stage.game?, Stage.state]

theorem advances_after (deed : Deed) : room.Advances (room.after deed) := by
  rw [after]
  split
  · next accepted => exact advances_of_attempt accepted
  · exact ⟨rfl, .inl rfl, .inl (.refl _)⟩

/-- A room of any configuration lives as it should, whatever is tried with it and in its game, and so
do the cells in which it is kept. -/
theorem lifecycle_exact (id : RoomId) (config : RoomConfig) (deeds : List Deed) :
    ((vacant id config).run deeds).Lifecycle config ((RoomCells.vacant id config).run deeds) := by
  have orderly := orderly_run id config deeds
  have holds := RoomCells.holds_run (RoomCells.holds_vacant id config) deeds
  have few := orderly.few
  rw [config_run deeds] at few
  refine ⟨holds, orderly.distinct, few, isSome_game_iff holds,
    fun game playing => (orderly.of_playing playing).1, fun deed => (advances_after deed).state,
    ?_, ?_, ?_⟩
  · intro begun deed
    rcases (advances_after deed).players with fewer | ⟨waiting, -⟩
    · exact fewer
    · exact (begun waiting).elim
  · intro player member
    rcases orderly.exists_departs member with ⟨departure, rest, left, departs⟩
    have agrees := RoomCells.leave_agrees holds player
    rw [left] at agrees
    cases written : RoomCells.leave player ((RoomCells.vacant id config).run deeds) with
    | error error later =>
      rw [written] at agrees
      cases agrees.1
    | ok value later =>
      rw [written] at agrees
      rcases agrees with ⟨next, same, holds'⟩
      cases same
      exact ⟨departure, rest, later, left, departs, rfl, holds'⟩
  · intro deed error later refused
    rcases (RoomCells.holds_after holds deed).2 error later refused with ⟨unwritten, refused'⟩
    exact ⟨unwritten, by rw [after, refused']⟩

end CardTable.Room
