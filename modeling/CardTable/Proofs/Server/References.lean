import CardTable.Proofs.Server.Runs

/-!
# No dangling references

After any calls whatever, who a session is, where it stands, who sits in which room and who plays in
which game say the same thing from every side.
-/

namespace CardTable

/-- The game that a room should have: none while it waits, one among just its players while it
plays, and one that is over, and that its players have taken part in, when it is finished. -/
def Room.HasOwnGame (room : Room) : Prop :=
  match room.state with
  | .waiting => room.game? = none
  | .playing => ∃ game turn pending, room.game? = some game ∧
      game.phase = .active turn pending ∧ game.players = room.players
  | .finished => ∃ game, room.game? = some game ∧
      game.phase = .finished ∧ room.players.Sublist game.players

theorem Room.Sound.hasOwnGame {room : Room} (sound : room.Sound) : room.HasOwnGame := by
  cases stage : room.stage with
  | waiting => simp [HasOwnGame, state, game?, stage, Stage.state, Stage.game?]
  | playing game =>
    rcases sound.of_playing stage with ⟨seated, on, _⟩
    cases phase : game.phase with
    | finished => exact (on phase).elim
    | active turn pending =>
      simp only [HasOwnGame, state, game?, stage, Stage.state, Stage.game?]
      exact ⟨game, turn, pending, rfl, phase, seated⟩
  | finished game =>
    simp only [HasOwnGame, state, game?, stage, Stage.state, Stage.game?]
    exact ⟨game, rfl, sound.of_finished stage⟩

theorem Room.Sound.not_shouldClose {room : Room} (sound : room.Sound) (occupied : room.players ≠ []) :
    ¬room.ShouldClose := by
  rintro (empty | ⟨playing, game, has, few⟩)
  · exact occupied empty
  · cases stage : room.stage with
    | waiting | finished _ => simp [state, stage, Stage.state] at playing
    | playing own =>
      rcases sound.of_playing stage with ⟨_, on, ready⟩
      cases phase : own.phase with
      | finished => exact on phase
      | active turn pending =>
        have two := (ready turn pending phase).2
        simp only [game?, stage, Stage.game?, Option.mem_def, Option.some_inj] at has
        rw [← has, Game.stillPlaying] at few
        omega

namespace Server

/-- Sessions, rooms and games refer to each other without a reference that points nowhere. -/
structure Coherent (server : Server) : Prop where
  /-- Without a place is who is without a nickname, and who is without a player. -/
  unnamed_iff : ∀ {id session}, server.sessions.get? id = some session →
    (session.location = .unnamed ↔ session.nickname? = none) ∧
      (session.nickname? = none ↔ session.player? = none)
  /-- Whoever stands in a room sits there. -/
  seated : ∀ {id session number}, server.sessions.get? id = some session →
    session.location = .room number ∨ session.location = .game number →
    ∃ room player, server.lobby.room? number = some room ∧ session.player? = some player ∧
      player ∈ room.players
  /-- Whoever sits in a room is carried by one live session, the one that the player leads to, and it
  stands there. -/
  carried : ∀ {number room player}, server.lobby.room? number = some room →
    player ∈ room.players →
    ∃ id session, server.sessions.findPlayer? player = some id ∧
      server.sessions.get? id = some session ∧ session.player? = some player ∧
      session.location = (if room.state = .waiting then .room number else .game number) ∧
      ∀ other holder, server.sessions.get? other = some holder →
        holder.player? = some player → other = id
  /-- Nobody sits twice in a room. -/
  distinct : ∀ {number room}, server.lobby.room? number = some room → room.players.Nodup
  /-- Nobody sits in two rooms. -/
  alone : ∀ {number other room room' player}, server.lobby.room? number = some room →
    server.lobby.room? other = some room' → player ∈ room.players → player ∈ room'.players →
    number = other
  /-- No room is left over. -/
  worthwhile : ∀ {number room}, server.lobby.room? number = some room →
    room.players ≠ [] ∧ ¬room.ShouldClose
  /-- Every room has the game that it should have. -/
  game : ∀ {number room}, server.lobby.room? number = some room → room.HasOwnGame

variable {server : Server}

theorem Linked.coherent (linked : server.Linked) : server.Coherent := by
  refine ⟨?_, ?_, ?_, ?_, ?_, ?_, ?_⟩
  · intro id session found
    rw [linked.location_eq_unnamed_iff found, Session.nickname?, Session.player?,
      Option.map_eq_none_iff, Option.map_eq_none_iff]
    exact ⟨Iff.rfl, Iff.rfl⟩
  · intro id session number found inside
    rcases linked.exists_seat found (Location.room?_eq_some_iff.2 inside) with
      ⟨identity, room, carries, here, member, _⟩
    exact ⟨room, identity.player, here, Session.player?_of_identity carries, member⟩
  · intro number room player here member
    rcases linked.carried ⟨room, here, member⟩ with ⟨id, session, found, carries⟩
    have leads := (linked.indexed.byPlayer player id).2 ⟨session, found, carries⟩
    refine ⟨id, session, leads, found, carries, ?_, ?_⟩
    · rw [((linked.fits found).placed carries).seated here member, Room.place, Room.state,
        linked.orderly.filed here]
      cases room.stage with
      | waiting => rfl
      | playing _ => rfl
      | finished _ => rfl
    · intro other holder found' carries'
      exact linked.indexed.unique_player found' carries' found carries
  · intro number room here
    exact (linked.orderly.sound here).distinct
  · intro number other room room' player here there member member'
    exact linked.alone ⟨room, here, member⟩ ⟨room', there, member'⟩
  · intro number room here
    have occupied := linked.orderly.occupied here
    exact ⟨occupied, (linked.orderly.sound here).not_shouldClose occupied⟩
  · intro number room here
    exact (linked.orderly.sound here).hasOwnGame

/-- After any calls, whatever the connections send and take and however the cards fall, no reference
points nowhere. -/
theorem coherent_run (config : ServerConfig) (deals : List Deal) (calls : List Call) :
    ((start config.validated deals).run calls).Coherent :=
  (Reachable.start.run calls).linked.coherent

end Server

end CardTable
