import CardTable.Proofs.Game.Legality
import CardTable.Proofs.Game.Ranking
import CardTable.Proofs.Room.Stages

/-!
# Rooms over time

A room may have any configuration, its deals may fail, and a game may be over before anybody
concludes it. Whatever is tried, the roster of the room and the seats of a game that is on stay the
same list, so that nobody who is in the room is refused to leave it.
-/

namespace CardTable

/-- Something to try with a room. -/
inductive Room.Deed
  | join (player : PlayerId)
  | start (chance : Deal)
  | leave (player : PlayerId)
  | conclude
  /-- An action in the game of the room. -/
  | act (move : Move) (action : move.IsAction)

/-- A stage that goes with the players of a room, also between the end of a game and its
conclusion. -/
inductive Stage.Accords (players : List PlayerId) : Stage → Prop
  | waiting : Accords players .waiting
  | playing {game : Game} (seated : game.players = players) (settled : game.Settled) :
      Accords players (.playing game)
  | finished {game : Game} (ended : game.phase = .finished) : Accords players (.finished game)

/-- Only a game that is on cares who is in the room. -/
theorem Stage.Accords.of_not_playing {stage : Stage} {players : List PlayerId}
    (accords : stage.Accords players) (off : ∀ game, stage ≠ .playing game)
    (others : List PlayerId) : stage.Accords others := by
  cases accords with
  | waiting => exact .waiting
  | playing => exact (off _ rfl).elim
  | finished ended => exact .finished ended

@[simp]
theorem Stage.game?_mapGame (stage : Stage) (change : Game → Game) :
    (stage.mapGame change).game? = stage.game?.map change := by
  cases stage <;> rfl

@[simp]
theorem Stage.state_mapGame (stage : Stage) (change : Game → Game) :
    (stage.mapGame change).state = stage.state := by
  cases stage <;> rfl

namespace Room

/-- Tries a move in the game of the room. While there is none, nothing happens. -/
def act (room : Room) (move : Move) : Except RoomError Room :=
  match room.game? with
  | none => .ok room
  | some game =>
    match game.attempt move with
    | .ok next => .ok { room with stage := room.stage.mapGame fun _ => next }
    | .error error => .error (.game error)

/-- The room after a deed, or why the deed is refused. -/
def attempt (room : Room) : Deed → Except RoomError Room
  | .join player => room.join player
  | .start chance => room.start chance
  | .leave player => (room.leave player).map Prod.snd
  | .conclude => .ok room.conclude.2
  | .act move _ => room.act move

/-- The room after somebody tried a deed; a refused one changes nothing. -/
def after (room : Room) (deed : Deed) : Room :=
  match room.attempt deed with
  | .ok next => next
  | .error _ => room

/-- The room after several deeds. -/
def run (room : Room) (deeds : List Deed) : Room :=
  deeds.foldl after room

variable {room next : Room} {player : PlayerId} {game : Game}

/-- What every accepted deed keeps holds throughout a run. -/
theorem run_induction {motive : Room → Prop} (start : motive room)
    (kept : ∀ {earlier next : Room} {deed : Deed}, motive earlier →
      earlier.attempt deed = .ok next → motive next)
    (deeds : List Deed) : motive (room.run deeds) := by
  induction deeds generalizing room with
  | nil => exact start
  | cons deed deeds ih =>
    refine ih ?_
    unfold after
    split
    · next accepted => exact kept start accepted
    · exact start

/-! ## The deeds in closed form -/

theorem start_eq_ok {chance : Deal} (started : room.start chance = .ok next) :
    room.stage = .waiting ∧ ∃ game, Game.deal room.players room.config.handSize chance = .ok game ∧
      next = { room with stage := .playing game } := by
  unfold start at started
  split at started
  · cases started
  · next allowed =>
    have waiting : room.stage = .waiting := by
      rw [Decidable.not_not, state] at allowed
      cases stage : room.stage <;> simp_all [Stage.state, RoomState.MayBecome, RoomState.next?]
    split at started
    · next game dealt =>
      cases started
      exact ⟨waiting, game, dealt, rfl⟩
    · cases started

theorem conclude_of_playing (playing : room.stage = .playing game) :
    room.conclude = (game.isFinished,
      { room with stage := if game.isFinished then .finished game else .playing game }) := by
  rw [conclude, playing]
  cases finish : game.isFinished
  · simp [finish, ← playing]
  · simp [finish]

theorem conclude_of_not_playing (off : ∀ game, room.stage ≠ .playing game) :
    room.conclude = (false, room) := by
  rw [conclude]
  split
  · next game playing => exact (off game playing).elim
  · rfl

theorem act_eq_ok {move : Move} (acted : room.act move = .ok next) :
    room.stage = .waiting ∧ next = room ∨
      ∃ game later, room.game? = some game ∧ game.attempt move = .ok later ∧
        next = { room with stage := room.stage.mapGame fun _ => later } := by
  unfold act at acted
  split at acted
  · next none =>
    cases acted
    refine .inl ⟨?_, rfl⟩
    cases stage : room.stage <;> simp [game?, stage, Stage.game?] at none ⊢
  · next game found =>
    split at acted
    · next later accepted =>
      cases acted
      exact .inr ⟨game, later, found, accepted, rfl⟩
    · cases acted

/-! ## Leaving -/

theorem leave_of_not_mem (absent : player ∉ room.players) :
    room.leave player = .error (.notInRoom player room.id) := by
  rw [leave, if_pos absent]

/-- A game that is on loses the player, and is over in the room if it is over or nobody is left. -/
theorem leave_of_playing {rest : Game} (member : player ∈ room.players)
    (playing : room.stage = .playing game) (removed : game.remove player = .ok rest) :
    room.leave player = .ok (
      if room.players.erase player = [] then .emptied
      else if rest.isFinished then .endedGame else .stayed,
      { room with
        players := room.players.erase player
        stage := if room.players.erase player = [] ∨ rest.isFinished then .finished rest
          else .playing rest }) := by
  have without : room.stageWithout player = .ok (.playing rest) := by
    simp [stageWithout, playing, removed]
  have concluded := @conclude_of_playing
    { room with players := room.players.erase player, stage := .playing rest } rest rfl
  rw [leave, if_neg (not_not.2 member), without]
  by_cases gone : room.players.erase player = []
  · simp [gone]
  · simp only [if_neg gone, concluded]
    cases rest.isFinished <;> simp [gone]

/-- A room whose game is not on loses the player and nothing else. -/
theorem leave_of_not_playing (member : player ∈ room.players)
    (off : ∀ game, room.stage ≠ .playing game) :
    room.leave player = .ok (
      if room.players.erase player = [] then .emptied else .stayed,
      { room with players := room.players.erase player }) := by
  have without : room.stageWithout player = .ok room.stage := by
    cases stage : room.stage with
    | playing game => exact (off game stage).elim
    | waiting | finished game => simp [stageWithout, stage]
  have concluded := @conclude_of_not_playing
    { room with players := room.players.erase player } off
  rw [leave, if_neg (not_not.2 member), without]
  by_cases gone : room.players.erase player = []
  · simp only [if_pos gone]
  · simp [gone, concluded]

/-! ## Rooms whose parts go together -/

/-- A room at any time: nobody is in it twice, nobody is in it without a place, and its stage goes
with its players. -/
structure Orderly (room : Room) : Prop where
  distinct : room.players.Nodup
  few : room.players.length ≤ room.config.capacity
  accords : room.stage.Accords room.players

theorem orderly_vacant (id : RoomId) (config : RoomConfig) : (vacant id config).Orderly where
  distinct := List.nodup_nil
  few := Nat.zero_le _
  accords := .waiting

theorem Orderly.of_playing (orderly : room.Orderly) (playing : room.stage = .playing game) :
    game.players = room.players ∧ game.Settled := by
  have accords := orderly.accords
  rw [playing] at accords
  cases accords with
  | playing seated settled => exact ⟨seated, settled⟩

theorem Orderly.of_finished (orderly : room.Orderly) (finished : room.stage = .finished game) :
    game.phase = .finished := by
  have accords := orderly.accords
  rw [finished] at accords
  cases accords with
  | finished ended => exact ended

theorem settled_of_deal {players : List PlayerId} {wanted : Nat} {chance : Deal}
    (dealt : Game.deal players wanted chance = .ok game) :
    game.players = players ∧ game.Settled := by
  rcases Game.opening_of_deal dealt with ⟨seated, phase, -⟩
  exact ⟨seated, Game.settled_of_on (Game.ready_of_deal dealt).2 (by simp [phase])⟩

/-- Nobody who is in the room is refused to leave a game that is on. -/
theorem Orderly.exists_rest (orderly : room.Orderly) (member : player ∈ room.players)
    (playing : room.stage = .playing game) :
    ∃ rest, game.remove player = .ok rest ∧ rest.players = room.players.erase player ∧
      rest.Settled := by
  rcases orderly.of_playing playing with ⟨seated, settled⟩
  rcases Game.exists_remove (seated ▸ member) with ⟨rest, removed⟩
  have players := Game.players_of_remove (seated ▸ orderly.distinct) removed
  exact ⟨rest, removed, seated ▸ players, @Game.Settled.attempt _ _ (.remove player) settled removed⟩

theorem isFinished_iff : game.isFinished = true ↔ game.phase = .finished := by
  simp [Game.isFinished]

theorem Orderly.leave {departure : Departure} (orderly : room.Orderly)
    (left : room.leave player = .ok (departure, next)) : next.Orderly := by
  by_cases member : player ∈ room.players
  · have distinct := orderly.distinct.erase player
    have few : (room.players.erase player).length ≤ room.config.capacity :=
      List.length_erase_le.trans orderly.few
    cases stage : room.stage with
    | playing game =>
      rcases orderly.exists_rest member stage with ⟨rest, removed, seated, settled⟩
      rw [leave_of_playing member stage removed] at left
      cases left
      refine ⟨distinct, few, ?_⟩
      dsimp only
      split
      · next finish =>
        refine .finished (settled.finished_iff.2 ?_)
        rcases finish with gone | finish
        · -- at a table without seats nobody holds cards
          have empty : rest.seats = [] := List.map_eq_nil_iff.1 (seated.trans gone)
          simp [Game.stillPlaying, empty, Game.inPlay]
        · exact settled.finished_iff.1 (isFinished_iff.1 finish)
      · exact .playing seated settled
    | waiting | finished game =>
      have off : ∀ game, room.stage ≠ .playing game := by simp [stage]
      rw [leave_of_not_playing member off] at left
      cases left
      exact ⟨distinct, few, orderly.accords.of_not_playing off _⟩
  · rw [leave_of_not_mem member] at left
    cases left

theorem Orderly.conclude (orderly : room.Orderly) : room.conclude.2.Orderly := by
  cases stage : room.stage with
  | playing game =>
    rcases orderly.of_playing stage with ⟨seated, settled⟩
    rw [conclude_of_playing stage]
    refine ⟨orderly.distinct, orderly.few, ?_⟩
    dsimp only
    split
    · next finish => exact .finished (isFinished_iff.1 finish)
    · exact .playing seated settled
  | waiting | finished game =>
    rw [conclude_of_not_playing (by simp [stage])]
    exact orderly

theorem Orderly.act {move : Move} (orderly : room.Orderly) (action : move.IsAction)
    (acted : room.act move = .ok next) : next.Orderly := by
  rcases act_eq_ok acted with ⟨-, rfl⟩ | ⟨game, later, found, accepted, rfl⟩
  · exact orderly
  · refine ⟨orderly.distinct, orderly.few, ?_⟩
    cases stage : room.stage with
    | waiting => simp [game?, stage, Stage.game?] at found
    | playing table =>
      rcases orderly.of_playing stage with ⟨seated, settled⟩
      have same : table = game := by simpa [game?, stage, Stage.game?] using found
      subst same
      exact .playing ((Game.acts_of_attempt action accepted).players.trans seated)
        (settled.attempt accepted)
    | finished table =>
      have same : table = game := by simpa [game?, stage, Stage.game?] using found
      subst same
      rw [Game.attempt_of_finished (orderly.of_finished stage) action] at accepted
      cases accepted

theorem Orderly.attempt {deed : Deed} (orderly : room.Orderly)
    (accepted : room.attempt deed = .ok next) : next.Orderly := by
  cases deed with
  | join player =>
    rcases join_eq_ok accepted with ⟨waiting, absent, free, rfl⟩
    refine ⟨?_, ?_, ?_⟩
    · have apart : room.players.Disjoint [player] := by simpa using absent
      exact List.nodup_append'.2 ⟨orderly.distinct, by simp, apart⟩
    · have some_place : ¬room.config.capacity ≤ room.players.length := free
      simp only [List.length_append, List.length_singleton]
      omega
    · rw [waiting]
      exact .waiting
  | start chance =>
    rcases start_eq_ok accepted with ⟨waiting, game, dealt, rfl⟩
    rcases settled_of_deal dealt with ⟨seated, settled⟩
    exact ⟨orderly.distinct, orderly.few, .playing seated settled⟩
  | leave player =>
    rcases Game.map_snd_eq_ok accepted with ⟨departure, left⟩
    exact orderly.leave left
  | conclude =>
    cases accepted
    exact orderly.conclude
  | act move action => exact orderly.act action accepted

theorem orderly_run (id : RoomId) (config : RoomConfig) (deeds : List Deed) :
    ((vacant id config).run deeds).Orderly :=
  run_induction (orderly_vacant id config) (fun orderly => orderly.attempt) deeds

/-! ## What one deed may change -/

/-- The state of a room stays or becomes the next one, and only a waiting room gets a player. -/
structure Advances (room next : Room) : Prop where
  config : next.config = room.config
  state : next.state = room.state ∨ room.state.MayBecome next.state
  players : next.players.Sublist room.players ∨
    room.state = .waiting ∧ ∃ player, next.players = room.players ++ [player]

theorem advances_of_leave {departure : Departure}
    (left : room.leave player = .ok (departure, next)) : room.Advances next := by
  by_cases member : player ∈ room.players
  · by_cases on : ∃ game, room.stage = .playing game
    · rcases on with ⟨game, playing⟩
      cases removed : game.remove player with
      | error error =>
        rw [Room.leave, if_neg (not_not.2 member)] at left
        simp [stageWithout, playing, removed] at left
      | ok rest =>
        rw [leave_of_playing member playing removed] at left
        cases left
        refine ⟨rfl, ?_, .inl List.erase_sublist⟩
        simp only [state, playing]
        split
        · exact .inr rfl
        · exact .inl rfl
    · rw [leave_of_not_playing member (not_exists.1 on)] at left
      cases left
      exact ⟨rfl, .inl rfl, .inl List.erase_sublist⟩
  · rw [leave_of_not_mem member] at left
    cases left

theorem advances_of_attempt {deed : Deed} (accepted : room.attempt deed = .ok next) :
    room.Advances next := by
  cases deed with
  | join player =>
    rcases join_eq_ok accepted with ⟨waiting, -, -, rfl⟩
    exact ⟨rfl, .inl rfl, .inr ⟨by rw [state, waiting]; rfl, player, rfl⟩⟩
  | start chance =>
    rcases start_eq_ok accepted with ⟨waiting, game, -, rfl⟩
    refine ⟨rfl, .inr ?_, .inl (.refl _)⟩
    rw [state, waiting]
    rfl
  | leave player =>
    rcases Game.map_snd_eq_ok accepted with ⟨departure, left⟩
    exact advances_of_leave left
  | conclude =>
    cases accepted
    refine ⟨config_conclude room, ?_, .inl (by rw [players_conclude])⟩
    by_cases on : ∃ game, room.stage = .playing game
    · rcases on with ⟨game, playing⟩
      rw [conclude_of_playing playing]
      simp only [state, playing]
      split
      · exact .inr rfl
      · exact .inl rfl
    · rw [conclude_of_not_playing (not_exists.1 on)]
      exact .inl rfl
  | act move action =>
    rcases act_eq_ok accepted with ⟨-, rfl⟩ | ⟨game, later, -, -, rfl⟩
    · exact ⟨rfl, .inl rfl, .inl (.refl _)⟩
    · exact ⟨rfl, .inl (Stage.state_mapGame _ _), .inl (.refl _)⟩

theorem config_run (deeds : List Deed) : (room.run deeds).config = room.config :=
  run_induction (motive := fun later => later.config = room.config) rfl
    (fun same accepted => (advances_of_attempt accepted).config.trans same) deeds

end Room

end CardTable
