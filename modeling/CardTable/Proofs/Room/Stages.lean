import CardTable.Proofs.Game.Queue
import CardTable.Room.Basic
import CardTable.Session.Basic

/-!
# Rooms and their games

A sound room seats nobody twice and no more players than it has seats; while its game is on, the
game has exactly the players of the room, in the same order, and goes on; when the game is over, the
players who are still there are among those of the game. Everything that can be done in a room keeps
it sound.
-/

namespace CardTable

/-- A stage that goes with the players of a room. -/
inductive Stage.Fits (players : List PlayerId) : Stage → Prop
  | waiting : Fits players .waiting
  | playing {game : Game} (seated : game.players = players) (on : game.phase ≠ .finished)
      (ready : game.Ready) : Fits players (.playing game)
  | finished {game : Game} (ended : game.phase = .finished)
      (seated : players.Sublist game.players) : Fits players (.finished game)

/-- The stage goes with the players, or it will once its game, which is over, is concluded. -/
def Stage.Settles (stage : Stage) (players : List PlayerId) : Prop :=
  stage.Fits players ∨
    ∃ game, stage = .playing game ∧ game.phase = .finished ∧ game.players = players

namespace Room

/-- Where the sessions of the room's players stand. -/
def place (room : Room) : Location :=
  match room.stage with
  | .waiting => .room room.id
  | .playing _ | .finished _ => .game room.id

/-- A room whose players and game go together. -/
structure Sound (room : Room) : Prop where
  distinct : room.players.Nodup
  few : room.players.length ≤ room.config.capacity
  fits : room.stage.Fits room.players

variable {room : Room} {player : PlayerId}

theorem Sound.of_playing {game : Game} (sound : room.Sound) (playing : room.stage = .playing game) :
    game.players = room.players ∧ game.phase ≠ .finished ∧ game.Ready := by
  have fits := sound.fits
  rw [playing] at fits
  cases fits with
  | playing seated on ready => exact ⟨seated, on, ready⟩

theorem Sound.of_finished {game : Game} (sound : room.Sound)
    (finished : room.stage = .finished game) :
    game.phase = .finished ∧ room.players.Sublist game.players := by
  have fits := sound.fits
  rw [finished] at fits
  cases fits with
  | finished ended seated => exact ⟨ended, seated⟩

@[simp]
theorem room?_place (room : Room) : room.place.room? = some room.id := by
  rw [place]
  split <;> rfl

theorem sound_vacant (id : RoomId) (config : RoomConfig) : (vacant id config).Sound where
  distinct := List.nodup_nil
  few := Nat.zero_le _
  fits := .waiting

theorem isJoinable_iff : room.state.IsJoinable ↔ room.stage = .waiting := by
  rw [state, RoomState.IsJoinable]
  cases room.stage <;> simp [Stage.state]

/-! ## Taking a seat -/

theorem join_eq_ok {joined : Room} (taken : room.join player = .ok joined) :
    room.stage = .waiting ∧ player ∉ room.players ∧ ¬room.IsFull ∧
      joined = { room with players := room.players ++ [player] } := by
  unfold join at taken
  split at taken
  · cases taken
  · next joinable =>
    split at taken
    · cases taken
    · next absent =>
      split at taken
      · cases taken
      · next free =>
        cases taken
        exact ⟨isJoinable_iff.1 (Decidable.not_not.1 joinable), absent, free, rfl⟩

theorem join_of_waiting (waiting : room.stage = .waiting) (absent : player ∉ room.players)
    (free : ¬room.IsFull) :
    room.join player = .ok { room with players := room.players ++ [player] } := by
  rw [join, if_neg (not_not.2 (isJoinable_iff.2 waiting)), if_neg absent, if_neg free]

theorem Sound.join {joined : Room} (sound : room.Sound) (taken : room.join player = .ok joined) :
    joined.Sound := by
  rcases join_eq_ok taken with ⟨waiting, absent, free, rfl⟩
  refine ⟨?_, ?_, ?_⟩
  · have apart : room.players.Disjoint [player] := by simpa using absent
    exact List.nodup_append'.2 ⟨sound.distinct, by simp, apart⟩
  · have room_left : ¬room.config.capacity ≤ room.players.length := free
    simp only [List.length_append, List.length_singleton]
    omega
  · rw [waiting]
    exact .waiting

/-! ## Starting -/

theorem Sound.start (sound : room.Sound) (waiting : room.stage = .waiting)
    (two : 2 ≤ room.players.length) (capacity : room.config.capacity ≤ 30) (chance : Deal) :
    ∃ game, room.start chance = .ok { room with stage := .playing game } ∧
      ({ room with stage := .playing game } : Room).Sound := by
  rcases Game.exists_deal two (sound.few.trans capacity) room.config.handSize chance with
    ⟨game, dealt, seated, phase, -⟩
  refine ⟨game, ?_, sound.distinct, sound.few, .playing seated ?_ (Game.ready_of_deal dealt).2⟩
  · have allowed : room.state.MayBecome .playing := by
      rw [state, waiting]
      rfl
    rw [Room.start, if_neg (not_not.2 allowed), dealt]
  · simp [phase]

/-! ## Concluding -/

/-- While a sound room is between two moves, there is nothing to conclude. -/
theorem Sound.conclude (sound : room.Sound) : room.conclude = (false, room) := by
  rw [Room.conclude]
  split
  · next game playing => simp [Game.isFinished, (sound.of_playing playing).2.1]
  · rfl

theorem sound_conclude (distinct : room.players.Nodup)
    (few : room.players.length ≤ room.config.capacity) (settles : room.stage.Settles room.players) :
    room.conclude.2.Sound := by
  rcases settles with fits | ⟨game, playing, ended, seated⟩
  · have sound : room.Sound := ⟨distinct, few, fits⟩
    rw [sound.conclude]
    exact sound
  · have finished : game.isFinished = true := by simpa [Game.isFinished] using ended
    have closed : room.conclude = (true, { room with stage := .finished game }) := by
      rw [Room.conclude, playing]
      simp [finished]
    rw [closed]
    refine ⟨distinct, few, .finished ended ?_⟩
    rw [seated]

/-- A room in which somebody has acted is sound once it is concluded. -/
theorem Sound.acted {game next : Game} {move : Move} (sound : room.Sound)
    (playing : room.stage = .playing game) (action : move.IsAction)
    (accepted : game.attempt move = .ok next) :
    ({ room with stage := .playing next } : Room).conclude.2.Sound := by
  rcases sound.of_playing playing with ⟨seated, _, ready⟩
  have same : next.players = room.players :=
    (Game.acts_of_attempt action accepted).players.trans seated
  have still := Game.ready_of_attempt ready accepted
  have settles : Stage.Settles (.playing next) room.players := by
    by_cases ended : next.phase = .finished
    · exact .inr ⟨next, rfl, ended, same⟩
    · exact .inl (.playing same ended still)
  exact @sound_conclude { room with stage := .playing next } sound.distinct sound.few settles

@[simp]
theorem id_conclude (room : Room) : room.conclude.2.id = room.id := by
  rw [conclude]
  split
  · split <;> rfl
  · rfl

@[simp]
theorem config_conclude (room : Room) : room.conclude.2.config = room.config := by
  rw [conclude]
  split
  · split <;> rfl
  · rfl

@[simp]
theorem players_conclude (room : Room) : room.conclude.2.players = room.players := by
  rw [conclude]
  split
  · split <;> rfl
  · rfl

theorem place_congr {other : Room} (id : other.id = room.id)
    (waiting : other.stage = .waiting ↔ room.stage = .waiting) : other.place = room.place := by
  rw [place, place, id]
  cases stage : other.stage <;> cases stage' : room.stage <;> simp_all

@[simp]
theorem place_conclude (room : Room) : room.conclude.2.place = room.place := by
  apply place_congr (id_conclude room)
  rw [conclude]
  split
  · next playing => split <;> simp [playing]
  · rfl

/-! ## Leaving -/

theorem Sound.exists_stageWithout (sound : room.Sound) (member : player ∈ room.players) :
    ∃ stage, room.stageWithout player = .ok stage ∧
      stage.Settles (room.players.erase player) ∧ (stage = .waiting ↔ room.stage = .waiting) := by
  cases stage : room.stage with
  | waiting => exact ⟨.waiting, by simp [stageWithout, stage], .inl .waiting, Iff.rfl⟩
  | playing game =>
    rcases sound.of_playing stage with ⟨seated, _, ready⟩
    rcases Game.exists_remove (seated ▸ member) with ⟨next, removed⟩
    have leaves := Game.leaves_of_remove removed
    have same : next.players = room.players.erase player :=
      seated ▸ leaves.players (seated ▸ sound.distinct)
    have still : next.Ready := @Game.ready_of_attempt _ _ (.remove player) ready removed
    refine ⟨.playing next, by simp [stageWithout, stage, removed], ?_, by simp⟩
    by_cases ended : next.phase = .finished
    · exact .inr ⟨next, rfl, ended, same⟩
    · exact .inl (.playing same ended still)
  | finished game =>
    rcases sound.of_finished stage with ⟨ended, seated⟩
    have rest : (room.players.erase player).Sublist game.players :=
      List.erase_sublist.trans seated
    exact ⟨.finished game, by simp [stageWithout, stage], .inl (.finished ended rest), by simp⟩

theorem Sound.leave (sound : room.Sound) (member : player ∈ room.players) :
    ∃ departure rest, room.leave player = .ok (departure, rest) ∧ rest.id = room.id ∧
      rest.config = room.config ∧ rest.players = room.players.erase player ∧
      rest.place = room.place ∧ (departure = .emptied ↔ rest.players = []) ∧
      (rest.players ≠ [] → rest.Sound) := by
  rcases sound.exists_stageWithout member with ⟨stage, without, settles, waiting⟩
  let rest : Room := { room with players := room.players.erase player, stage }
  have place : rest.place = room.place := place_congr rfl waiting
  rw [Room.leave, if_neg (not_not.2 member), without]
  by_cases gone : room.players.erase player = []
  · -- the room goes with its last player, whatever its stage
    have left {other : Room} (same : other.players = room.players.erase player) :
        (Departure.emptied = .emptied ↔ other.players = []) ∧
          (other.players ≠ [] → other.Sound) := by
      rw [same]
      exact ⟨by simp [gone], fun stays => (stays gone).elim⟩
    cases stage with
    | playing game =>
      refine ⟨.emptied, { rest with stage := .finished game }, by simp [gone, rest], rfl, rfl, rfl,
        ?_, left rfl⟩
      rw [← place]
      exact place_congr rfl (by simp [rest])
    | waiting | finished _ =>
      exact ⟨.emptied, rest, by simp [gone, rest], rfl, rfl, rfl, place, left rfl⟩
  · have few : rest.players.length ≤ rest.config.capacity := List.length_erase_le.trans sound.few
    have closed : rest.conclude.2.Sound := sound_conclude (sound.distinct.erase player) few settles
    have stays : ¬rest.players = [] := gone
    have rests : rest.conclude.2.place = room.place := (place_conclude rest).trans place
    refine ⟨if rest.conclude.1 then .endedGame else .stayed, rest.conclude.2, ?_, id_conclude rest,
      config_conclude rest, players_conclude rest, rests, ?_, fun _ => closed⟩
    · simp only [if_neg gone]
      split
      · next closed concluded =>
        change rest.conclude = (true, closed) at concluded
        simp [concluded]
      · next unchanged concluded =>
        change rest.conclude = (false, unchanged) at concluded
        simp [concluded]
    · cases rest.conclude.1 <;> simp [stays]

theorem leave_eq_ok {departure : Departure} {rest : Room}
    (left : room.leave player = .ok (departure, rest)) (stays : rest.players ≠ []) :
    ∃ stage, room.stageWithout player = .ok stage ∧
      ({ room with players := room.players.erase player, stage } : Room).conclude =
        (decide (departure = .endedGame), rest) := by
  unfold leave at left
  split at left
  · cases left
  · split at left
    · cases left
    · next stage without =>
      refine ⟨stage, without, ?_⟩
      simp only at left
      split at left
      · next gone =>
        have none : rest.players = [] := by
          split at left <;> cases left <;> exact gone
        exact (stays none).elim
      · split at left
        · next concluded =>
          cases left
          exact concluded
        · next concluded =>
          cases left
          exact concluded

/-- A game that is on loses the player, and is over if that ends it; any other stage stays. -/
theorem stage_of_leave {departure : Departure} {rest : Room}
    (left : room.leave player = .ok (departure, rest)) (stays : rest.players ≠ []) :
    (∃ game after, room.stage = .playing game ∧ game.remove player = .ok after ∧
      rest.stage = if departure = .endedGame then .finished after else .playing after) ∨
    (∀ game, room.stage ≠ .playing game) ∧ departure ≠ .endedGame ∧ rest.stage = room.stage := by
  rcases leave_eq_ok left stays with ⟨stage, without, concluded⟩
  cases on : room.stage with
  | playing game =>
    cases removed : game.remove player with
    | error error => simp [stageWithout, on, removed] at without
    | ok after =>
      simp only [stageWithout, on, removed, Except.ok.injEq] at without
      subst without
      refine .inl ⟨game, after, rfl, removed, ?_⟩
      unfold conclude at concluded
      dsimp only at concluded
      split at concluded
      · rw [Prod.mk.injEq, eq_comm, decide_eq_true_eq] at concluded
        rw [if_pos concluded.1, ← concluded.2]
      · rw [Prod.mk.injEq, eq_comm, decide_eq_false_iff_not] at concluded
        rw [if_neg concluded.1, ← concluded.2]
  | waiting | finished game =>
    simp only [stageWithout, on, Except.ok.injEq] at without
    subst without
    rw [conclude, Prod.mk.injEq, eq_comm, decide_eq_false_iff_not] at concluded
    exact .inr ⟨by simp, concluded.1, concluded.2 ▸ rfl⟩

end Room

end CardTable
