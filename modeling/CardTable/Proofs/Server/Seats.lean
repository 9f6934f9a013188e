import CardTable.Proofs.Server.Links
import CardTable.Proofs.Server.Lookups

/-!
# Seats that are taken and left

A request that moves players changes one room and the places of some sessions together. The general
lemma says what the two changes have to agree on for the server to stay linked; taking a seat,
leaving it, and the start and the course of a game are its cases.
-/

namespace CardTable.Server

variable {server : Server}

/-- Moves several sessions to the same place. -/
def moveAll (server : Server) (ids : List ConnectionId) (location : Location) : Server :=
  ids.foldl (fun server id => server.move id location) server

/-- Moving sessions changes their locations and nothing else. -/
structure Moved (server : Server) (ids : List ConnectionId) (location : Location)
    (next : Server) : Prop where
  get? : ∀ asked, next.sessions.get? asked = (server.sessions.get? asked).map fun session =>
    if asked ∈ ids then { session with location } else session
  byName : next.sessions.byName = server.sessions.byName
  byPlayer : next.sessions.byPlayer = server.sessions.byPlayer
  lobby : next.lobby = server.lobby
  nextPlayer : next.nextPlayer = server.nextPlayer

theorem moved_moveAll (server : Server) (ids : List ConnectionId) (location : Location) :
    server.Moved ids location (server.moveAll ids location) := by
  induction ids generalizing server with
  | nil => exact ⟨by simp [moveAll], rfl, rfl, rfl, rfl⟩
  | cons id ids ih =>
    have rest := ih (server.move id location)
    refine ⟨?_, rest.byName, rest.byPlayer, rest.lobby, rest.nextPlayer⟩
    intro asked
    refine (rest.get? asked).trans ?_
    rw [move, Sessions.get?_modify]
    by_cases first : asked = id
    · rw [if_pos first, Option.map_map]
      congr 1
      funext session
      simp [first]
    · simp [first]

namespace Moved

variable {ids : List ConnectionId} {location : Location} {next : Server}

theorem identity (moved : server.Moved ids location next) (asked : ConnectionId) :
    (next.sessions.get? asked).map Session.identity =
      (server.sessions.get? asked).map Session.identity := by
  rw [moved.get?, Option.map_map]
  congr 1
  funext session
  simp only [Function.comp_apply]
  split <;> rfl

theorem indexed (moved : server.Moved ids location next) (indexed : server.sessions.Indexed) :
    next.sessions.Indexed := by
  refine ⟨?_, ?_, ?_⟩
  · intro id session found
    rw [moved.get?] at found
    rcases Option.map_eq_some_iff.1 found with ⟨earlier, found', rfl⟩
    have filed := indexed.filed found'
    split <;> exact filed
  · rw [moved.byName]
    exact indexed.byName.of_identities moved.identity
  · rw [moved.byPlayer]
    exact indexed.byPlayer.of_identities moved.identity

end Moved

/-- What a change of one room and the moves of some players have to agree on: whoever is to stand in
the room is moved there or stands there already, and whoever has left it is moved to the lobby. -/
structure Relocates (server : Server) (lobby : Lobby) (number : RoomId) (target : Location)
    (moves : PlayerId → Prop) : Prop where
  orderly : lobby.Orderly
  elsewhere : ∀ asked, asked ≠ number → lobby.room? asked = server.lobby.room? asked
  inside : ∀ {id session player room}, server.sessions.get? id = some session →
    session.player? = some player → lobby.room? number = some room → player ∈ room.players →
    (moves player → target = room.place) ∧ (¬moves player → session.location = room.place) ∧
      (server.lobby.Seats number player ∨ session.location.room? = none)
  outside : ∀ {player}, ¬lobby.Seats number player →
    (moves player → target = .lobby ∧ server.lobby.Seats number player) ∧
      (¬moves player → ¬server.lobby.Seats number player)
  carried : ∀ {player}, lobby.Seats number player →
    ∃ id session, server.sessions.get? id = some session ∧ session.player? = some player

namespace Relocates

variable {lobby : Lobby} {number : RoomId} {target : Location} {moves : PlayerId → Prop}
  {id : ConnectionId} {session : Session} {player : PlayerId}

/-- A player who is moved has no seat in another room. -/
theorem eq_of_moves (change : server.Relocates lobby number target moves) (linked : server.Linked)
    (found : server.sessions.get? id = some session) (carries : session.player? = some player)
    (goes : moves player) {asked : RoomId} (seats : server.lobby.Seats asked player) :
    asked = number := by
  by_contra other
  have apart : ¬server.lobby.Seats number player := fun here => other (linked.alone seats here)
  by_cases seated : lobby.Seats number player
  · rcases seated with ⟨room, here, member⟩
    have standing := (change.inside found carries here member).2.2.resolve_left apart
    exact linked.not_seats found standing carries asked seats
  · exact apart ((change.outside seated).1 goes).2

theorem places_of_moves (change : server.Relocates lobby number target moves)
    (linked : server.Linked) (found : server.sessions.get? id = some session)
    (carries : session.player? = some player) (goes : moves player) :
    lobby.Places player target := by
  refine ⟨?_, fun unseated => ((change.outside (unseated number)).1 goes).1⟩
  intro asked room here member
  by_cases same : asked = number
  · subst same
    exact (change.inside found carries here member).1 goes
  · rw [change.elsewhere asked same] at here
    exact (same (change.eq_of_moves linked found carries goes ⟨room, here, member⟩)).elim

theorem places_of_stays (change : server.Relocates lobby number target moves)
    (linked : server.Linked) (found : server.sessions.get? id = some session)
    (carries : session.player? = some player) (stays : ¬moves player) :
    lobby.Places player session.location := by
  have placed := (linked.fits found).placed carries
  refine ⟨?_, ?_⟩
  · intro asked room here member
    by_cases same : asked = number
    · subst same
      exact (change.inside found carries here member).2.1 stays
    · rw [change.elsewhere asked same] at here
      exact placed.seated here member
  · intro unseated
    apply placed.outside
    intro asked
    by_cases same : asked = number
    · subst same
      exact (change.outside (unseated asked)).2 stays
    · rintro ⟨room, here, member⟩
      rw [← change.elsewhere asked same] at here
      exact unseated asked ⟨room, here, member⟩

theorem exists_carrier (change : server.Relocates lobby number target moves)
    (linked : server.Linked) {asked : RoomId} (seats : lobby.Seats asked player) :
    ∃ id session, server.sessions.get? id = some session ∧ session.player? = some player := by
  by_cases same : asked = number
  · subst same
    exact change.carried seats
  · rcases seats with ⟨room, here, member⟩
    rw [change.elsewhere asked same] at here
    exact linked.carried ⟨room, here, member⟩

end Relocates

namespace Linked

variable {lobby : Lobby} {number : RoomId} {room : Room} {id : ConnectionId} {session : Session}
  {player : PlayerId}

/-- A linked server stays linked when one room is changed and just the players are moved that the
change calls for. -/
theorem relocate (linked : server.Linked) {ids : List ConnectionId} {target : Location}
    {moves : PlayerId → Prop}
    (chosen : ∀ {id session}, server.sessions.get? id = some session →
      (id ∈ ids ↔ ∃ player, session.player? = some player ∧ moves player))
    (change : server.Relocates lobby number target moves) :
    (({ server with lobby } : Server).moveAll ids target).Linked := by
  have moved := moved_moveAll { server with lobby } ids target
  refine ⟨moved.indexed linked.indexed, moved.lobby ▸ change.orderly, ?_, ?_⟩
  · intro asked later found
    rw [moved.get?] at found
    rcases Option.map_eq_some_iff.1 found with ⟨session, found', rfl⟩
    have fits := linked.fits found'
    by_cases moving : asked ∈ ids
    · rw [if_pos moving]
      rcases (chosen found').1 moving with ⟨player, carries, goes⟩
      refine ⟨?_, fun owns => (fits.issued owns).trans_eq moved.nextPlayer.symm, ?_⟩
      · intro nameless
        change session.identity = none at nameless
        rw [Session.player?_of_unnamed nameless] at carries
        cases carries
      · intro owner owns
        cases Option.some.inj (carries.symm.trans owns)
        rw [moved.lobby]
        exact change.places_of_moves linked found' carries goes
    · rw [if_neg moving]
      refine ⟨fits.unnamed, fun owns => (fits.issued owns).trans_eq moved.nextPlayer.symm, ?_⟩
      intro player carries
      have stays : ¬moves player := fun goes => moving ((chosen found').2 ⟨player, carries, goes⟩)
      rw [moved.lobby]
      exact change.places_of_stays linked found' carries stays
  · intro asked owner seats
    rw [moved.lobby] at seats
    rcases change.exists_carrier linked seats with ⟨id, session, found, carries⟩
    refine ⟨id, _, (moved.get? id).trans (congrArg _ found), ?_⟩
    split <;> exact carries

theorem mem_singleton_iff (linked : server.Linked) (found : server.sessions.get? id = some session)
    (carries : session.player? = some player) {other : ConnectionId} {holder : Session}
    (found' : server.sessions.get? other = some holder) :
    other ∈ [id] ↔ ∃ owner, holder.player? = some owner ∧ owner = player := by
  rw [List.mem_singleton]
  constructor
  · rintro rfl
    rw [found] at found'
    cases found'
    exact ⟨player, carries, rfl⟩
  · rintro ⟨owner, carries', rfl⟩
    exact linked.indexed.unique_player found' carries' found carries

/-- Somebody from the lobby takes a seat. -/
theorem enter (linked : server.Linked) (found : server.sessions.get? id = some session)
    (carries : session.player? = some player) (standing : session.location.room? = none)
    (orderly : lobby.Orderly)
    (elsewhere : ∀ asked, asked ≠ number → lobby.room? asked = server.lobby.room? asked)
    (here : lobby.room? number = some room)
    (grown : ∀ other, other ∈ room.players ↔ server.lobby.Seats number other ∨ other = player)
    (same : ∀ before, server.lobby.room? number = some before → before.place = room.place) :
    (({ server with lobby } : Server).move id room.place).Linked := by
  apply linked.relocate (linked.mem_singleton_iff found carries)
  refine ⟨orderly, elsewhere, ?_, ?_, ?_⟩
  · intro other holder owner room' found' carries' here' member
    rw [here] at here'
    cases here'
    refine ⟨fun _ => rfl, ?_, ?_⟩
    · intro another
      rcases ((grown owner).1 member).resolve_right another with ⟨before, found'', member'⟩
      rw [← same before found'']
      exact ((linked.fits found').placed carries').seated found'' member'
    · rcases (grown owner).1 member with seats | rfl
      · exact .inl seats
      · cases linked.indexed.unique_player found' carries' found carries
        rw [found] at found'
        cases found'
        exact .inr standing
  · intro owner absent
    rw [Lobby.seats_iff here, grown, not_or] at absent
    exact ⟨fun entering => (absent.2 entering).elim, fun _ => absent.1⟩
  · intro owner seats
    rw [Lobby.seats_iff here, grown] at seats
    rcases seats with seats | rfl
    · exact linked.carried seats
    · exact ⟨id, session, found, carries⟩

/-- Somebody leaves a seat for the lobby. -/
theorem leave (linked : server.Linked) (found : server.sessions.get? id = some session)
    (carries : session.player? = some player) (seated : server.lobby.Seats number player)
    (orderly : lobby.Orderly)
    (elsewhere : ∀ asked, asked ≠ number → lobby.room? asked = server.lobby.room? asked)
    (shrunk : ∀ other, lobby.Seats number other ↔
      server.lobby.Seats number other ∧ other ≠ player)
    (same : ∀ before after, server.lobby.room? number = some before →
      lobby.room? number = some after → before.place = after.place) :
    (({ server with lobby } : Server).move id .lobby).Linked := by
  apply linked.relocate (linked.mem_singleton_iff found carries)
  refine ⟨orderly, elsewhere, ?_, ?_, ?_⟩
  · intro other holder owner room' found' carries' here member
    rcases (shrunk owner).1 ⟨room', here, member⟩ with ⟨seats, stays⟩
    refine ⟨fun leaving => (stays leaving).elim, fun _ => ?_, .inl seats⟩
    rcases seats with ⟨before, found'', member'⟩
    rw [← same before room' found'' here]
    exact ((linked.fits found').placed carries').seated found'' member'
  · intro owner absent
    rw [shrunk, not_and_not_right] at absent
    exact ⟨fun leaving => ⟨rfl, leaving ▸ seated⟩, fun stays seats => stays (absent seats)⟩
  · intro owner seats
    exact linked.carried ((shrunk owner).1 seats).1

/-- Everybody in a room moves on together. -/
theorem advance (linked : server.Linked) {ids : List ConnectionId}
    (chosen : ∀ {id session}, server.sessions.get? id = some session →
      (id ∈ ids ↔ ∃ player, session.player? = some player ∧ player ∈ room.players))
    (orderly : lobby.Orderly)
    (elsewhere : ∀ asked, asked ≠ number → lobby.room? asked = server.lobby.room? asked)
    (here : lobby.room? number = some room)
    (same : ∀ other, other ∈ room.players ↔ server.lobby.Seats number other) :
    (({ server with lobby } : Server).moveAll ids room.place).Linked := by
  apply linked.relocate chosen
  refine ⟨orderly, elsewhere, ?_, ?_, ?_⟩
  · intro id session player room' found carries here' member
    rw [here] at here'
    cases here'
    exact ⟨fun _ => rfl, fun absent => (absent member).elim, .inl ((same player).1 member)⟩
  · intro player absent
    rw [Lobby.seats_iff here] at absent
    exact ⟨fun member => (absent member).elim, fun _ seats => absent ((same player).2 seats)⟩
  · intro player seats
    rw [Lobby.seats_iff here, same] at seats
    exact linked.carried seats

/-- A game goes on among the players of its room. -/
theorem replace (linked : server.Linked) {before : Room} (orderly : lobby.Orderly)
    (elsewhere : ∀ asked, asked ≠ number → lobby.room? asked = server.lobby.room? asked)
    (there : server.lobby.room? number = some before) (here : lobby.room? number = some room)
    (players : room.players = before.players) (place : before.place = room.place) :
    ({ server with lobby } : Server).Linked := by
  have nobody : ∀ {id : ConnectionId} {session : Session}, server.sessions.get? id = some session →
      (id ∈ [] ↔ ∃ player, session.player? = some player ∧ False) := by simp
  apply @relocate _ _ number linked [] room.place (fun _ => False) nobody
  refine ⟨orderly, elsewhere, ?_, ?_, ?_⟩
  · intro id session player room' found carries here' member
    rw [here] at here'
    cases here'
    rw [players] at member
    refine ⟨fun goes => goes.elim, fun _ => ?_, .inl ⟨before, there, member⟩⟩
    rw [← place]
    exact ((linked.fits found).placed carries).seated there member
  · intro player absent
    rw [Lobby.seats_iff here, players, ← Lobby.seats_iff there] at absent
    exact ⟨fun goes => goes.elim, fun _ => absent⟩
  · intro player seats
    rw [Lobby.seats_iff here, players, ← Lobby.seats_iff there] at seats
    exact linked.carried seats

end Linked

end CardTable.Server
