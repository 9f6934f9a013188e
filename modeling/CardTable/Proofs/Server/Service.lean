import CardTable.Proofs.Game.Refusals
import CardTable.Proofs.Server.Rooms

/-!
# Where requests are served

A request is served exactly if its sender stands where it may be made, and, if it is a move, if the
game accepts the move; otherwise it is refused, and the server stays as it is. A server that is
linked stays linked. The books of a linked server agree, so a refusal is always the sender's fault.
-/

namespace CardTable

/-- An error that is the sender's fault. -/
inductive ServerError.IsRefusal : ServerError → Prop
  | protocol (error : ProtocolError) : IsRefusal (.session (.protocol error))
  | violation (what : Violation) : IsRefusal (.violation what)
  | game {error : GameError} (breach : error.IsRuleBreach) : IsRefusal (.game error)

theorem Location.room?_eq_some_iff {location : Location} {number : RoomId} :
    location.room? = some number ↔ location = .room number ∨ location = .game number := by
  cases location <;> simp [room?]

namespace Server

variable {server : Server} {id : ConnectionId} {session : Session}

/-! ## What is permitted -/

/-- The session is in a game that is on and accepts the player's move. -/
def Accepts (server : Server) (session : Session) (move : PlayerId → Move) : Prop :=
  ∃ number room game player next, session.location = .game number ∧
    server.lobby.room? number = some room ∧ room.stage = .playing game ∧
    session.player? = some player ∧ game.attempt (move player) = .ok next

/-- Where a request may be made, and which moves. -/
def Permits (server : Server) (session : Session) : Request → Prop
  | .pong | .ok | .state => True
  | .name _ => session.location = .unnamed
  | .listRooms | .createRoom | .joinRoom _ => session.location = .lobby
  | .leaveRoom | .roomInfo =>
    ∃ number, session.location = .room number ∨ session.location = .game number
  | .play card => server.Accepts session fun player => .play player card
  | .draw => server.Accepts session .draw
  | .pass => server.Accepts session .pass

theorem accepts_iff {move : PlayerId → Move} {number : RoomId} {room : Room} {game : Game}
    {player : PlayerId} (location : session.location = .game number)
    (here : server.lobby.room? number = some room) (stage : room.stage = .playing game)
    (owner : session.player? = some player) :
    server.Accepts session move ↔ ∃ next, game.attempt (move player) = .ok next := by
  constructor
  · rintro ⟨number', room', game', player', next, location', here', stage', owner', accepted⟩
    cases location.symm.trans location'
    cases Option.some.inj (here.symm.trans here')
    cases stage.symm.trans stage'
    cases owner.symm.trans owner'
    exact ⟨next, accepted⟩
  · rintro ⟨next, accepted⟩
    exact ⟨number, room, game, player, next, location, here, stage, owner, accepted⟩

/-- A request is done if it is allowed, and refused if it is not. A refusal changes nothing. -/
inductive Served (server : Server) (allowed : Prop) : Outcome → Prop
  | done {next : Server} (may : allowed) (linked : next.Linked) : Served server allowed (.ok next)
  | refused {cause : ServerError} (mayNot : ¬allowed) (refusal : cause.IsRefusal) :
    Served server allowed (.error { cause, server })

section Served

variable {allowed : Prop}

theorem Served.exists_ok_iff {outcome : Outcome} (served : Served server allowed outcome) :
    (∃ next, outcome = .ok next) ↔ allowed := by
  cases served with
  | done may _ => exact ⟨fun _ => may, fun _ => ⟨_, rfl⟩⟩
  | refused mayNot _ =>
    constructor
    · rintro ⟨next, done⟩
      cases done
    · intro may
      exact (mayNot may).elim

theorem Served.linked {next : Server} (served : Served server allowed (.ok next)) : next.Linked := by
  cases served with
  | done _ linked => exact linked

theorem Served.refusal {failure : Failure} (served : Served server allowed (.error failure)) :
    failure.cause.IsRefusal ∧ failure.server = server := by
  cases served with
  | refused _ refusal => exact ⟨refusal, rfl⟩

theorem Served.congr {allowed' : Prop} {outcome : Outcome}
    (served : Served server allowed outcome) (same : allowed ↔ allowed') :
    Served server allowed' outcome := by
  cases served with
  | done may linked => exact .done (same.1 may) linked
  | refused mayNot refusal => exact .refused (mt same.2 mayNot) refusal

end Served

/-! ## The sender -/

theorem sender_of_unnamed (found : server.sessions.get? id = some session)
    (unnamed : session.identity = none) (verb : Verb) :
    server.sender id verb = .error (.violation (.beforeName verb)) := by
  simp [sender, found, unnamed]

theorem sender_of_identity (found : server.sessions.get? id = some session) {identity : Identity}
    (carries : session.identity = some identity) (verb : Verb) :
    server.sender id verb = .ok (identity, session.location) := by
  simp [sender, found, carries]

namespace Linked

variable (linked : server.Linked) (found : server.sessions.get? id = some session)

include linked found

/-- A sender in the lobby is known there, and any other one is turned away. -/
theorem served_of_inLobby (verb : Verb) {next : Identity → Outcome}
    (serve : ∀ identity, session.identity = some identity → session.location = .lobby →
      ∃ later, next identity = .ok later ∧ later.Linked) :
    Served server (session.location = .lobby) (server.checked (server.inLobby id verb) next) := by
  cases carries : session.identity with
  | none =>
    have elsewhere : session.location ≠ .lobby := by
      rw [(linked.fits found).unnamed carries]
      simp
    simp only [inLobby, sender_of_unnamed found carries, bind, Except.bind]
    exact .refused elsewhere (.violation _)
  | some identity =>
    have sender := sender_of_identity found carries verb
    cases location : session.location with
    | lobby =>
      have allowed : server.inLobby id verb = .ok identity := by
        simp [inLobby, sender, location, bind, Except.bind, pure, Except.pure]
      rcases serve identity carries location with ⟨later, served, linked'⟩
      rw [allowed, checked, served]
      exact .done rfl linked'
    | unnamed | room number | game number =>
      simp only [inLobby, sender, location, bind, Except.bind]
      exact .refused (by simp) (.violation _)

/-- A sender in a room is known there, and any other one is turned away. -/
theorem served_of_inRoom (verb : Verb) {next : Identity × RoomId → Outcome}
    (serve : ∀ identity number, session.identity = some identity →
      session.location.room? = some number → ∃ later, next (identity, number) = .ok later ∧
        later.Linked) :
    Served server (∃ number, session.location = .room number ∨ session.location = .game number)
      (server.checked (server.inRoom id verb) next) := by
  cases inside : session.location.room? with
  | none =>
    have outside : ¬∃ number, session.location = .room number ∨ session.location = .game number := by
      rintro ⟨number, here⟩
      rw [Location.room?_eq_some_iff.2 here] at inside
      cases inside
    cases carries : session.identity with
    | none =>
      simp only [inRoom, sender_of_unnamed found carries, bind, Except.bind]
      exact .refused outside (.violation _)
    | some identity =>
      simp only [inRoom, sender_of_identity found carries, inside, bind, Except.bind]
      exact .refused outside (.violation _)
  | some number =>
    rcases linked.exists_seat found inside with ⟨identity, _, carries, _⟩
    have allowed : server.inRoom id verb = .ok (identity, number) := by
      simp [inRoom, sender_of_identity found carries, inside, bind, Except.bind, pure, Except.pure]
    rcases serve identity number carries inside with ⟨later, served, linked'⟩
    rw [allowed, checked, served]
    exact .done ⟨number, Location.room?_eq_some_iff.1 inside⟩ linked'

/-- A sender whose game is on may try a move, and any other one is turned away. -/
theorem served_of_inGame (verb : Verb) (move : PlayerId → Move) {next : Playing → Outcome}
    (action : ∀ player, (move player).IsAction) (mover : ∀ player, (move player).player = player)
    (refuse : ∀ playing error, playing.game.attempt (move playing.identity.player) = .error error →
      next playing = server.fail (.game error))
    (accept : ∀ playing later, server.lobby.room? playing.room.id = some playing.room →
      playing.room.stage = .playing playing.game →
      playing.game.attempt (move playing.identity.player) = .ok later →
      ∃ after, next playing = .ok after ∧ after.Linked) :
    Served server (server.Accepts session move) (server.checked (server.inGame id verb) next) := by
  cases carries : session.identity with
  | none =>
    simp only [inGame_eq, sender_of_unnamed found carries, bind, Except.bind]
    refine .refused ?_ (.violation _)
    rintro ⟨_, _, _, player, _, _, _, _, owner, _⟩
    rw [Session.player?_of_unnamed carries] at owner
    cases owner
  | some identity =>
    have sender := sender_of_identity found carries verb
    have player := Session.player?_of_identity carries
    cases location : session.location with
    | unnamed | lobby | room number =>
      simp only [inGame_eq, sender, location, bind, Except.bind]
      refine .refused ?_ (.violation _)
      rintro ⟨_, _, _, _, _, inGame, _⟩
      rw [location] at inGame
      cases inGame
    | game number =>
      have inside : session.location.room? = some number := by
        rw [location]
        rfl
      rcases linked.exists_seat found inside with ⟨identity', room, carries', here, member, _⟩
      cases Option.some.inj (carries.symm.trans carries')
      have idle : (∀ game, room.stage ≠ .playing game) → ¬server.Accepts session move := by
        rintro no_game ⟨number', room', game, _, _, location', here', playing, _⟩
        cases location.symm.trans location'
        cases Option.some.inj (here.symm.trans here')
        exact no_game game playing
      cases stage : room.stage with
      | waiting | finished _ =>
        simp only [inGame_eq, sender, location, here, stage, bind, Except.bind]
        exact .refused (idle (by simp [stage])) (.violation _)
      | playing game =>
        have allowed : server.inGame id verb = .ok { identity, room, game } := by
          simp [inGame_eq, sender, location, here, stage, bind, Except.bind, pure, Except.pure]
        rw [allowed, checked]
        have filed := linked.orderly.filed here
        have accepts := @accepts_iff _ _ move _ _ _ _ location here stage player
        rcases (linked.orderly.sound here).of_playing stage with ⟨seated, on, _⟩
        cases attempted : game.attempt (move identity.player) with
        | error error =>
          rw [refuse { identity, room, game } error attempted]
          refine .refused ?_ (.game ?_)
          · rw [accepts]
            rintro ⟨later, accepted⟩
            rw [attempted] at accepted
            cases accepted
          · apply Game.isRuleBreach_of_refused on (action _) _ attempted
            rw [mover, seated]
            exact member
        | ok later =>
          rcases accept { identity, room, game } later (filed ▸ here) stage attempted with
            ⟨after, served, linked'⟩
          rw [served]
          exact .done (accepts.2 ⟨later, attempted⟩) linked'

end Linked

end Server

end CardTable
