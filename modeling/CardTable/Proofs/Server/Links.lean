import CardTable.Proofs.Server.Saying
import CardTable.Proofs.Session.Register

/-!
# Links between sessions and rooms

The sessions, the lobby and the games refer to each other by numbers. In a linked server none of
these references points nowhere: whoever has a seat is carried by a session that stands at the seat,
and every session stands where the seats say. There is one lemma for each way in which the books are
written; what a request does to them is put together from these.
-/

namespace CardTable

/-! ## Seats of a lobby -/

namespace Lobby

/-- The room of a number seats a player. -/
def Seats (lobby : Lobby) (number : RoomId) (player : PlayerId) : Prop :=
  ∃ room, lobby.room? number = some room ∧ player ∈ room.players

/-- A lobby between two requests: every room has players, and they go with its game. -/
structure Orderly (lobby : Lobby) : Prop where
  two_le_capacity : 2 ≤ lobby.config.capacity
  capacity_le : lobby.config.capacity ≤ 30
  filed : ∀ {number room}, lobby.room? number = some room → room.id = number
  alike : ∀ {number room}, lobby.room? number = some room → room.config = lobby.config
  occupied : ∀ {number room}, lobby.room? number = some room → room.players ≠ []
  sound : ∀ {number room}, lobby.room? number = some room → room.Sound

/-- Where a player stands as far as the lobby is concerned. -/
structure Places (lobby : Lobby) (player : PlayerId) (location : Location) : Prop where
  seated : ∀ {number room}, lobby.room? number = some room → player ∈ room.players →
    location = room.place
  outside : (∀ number, ¬lobby.Seats number player) → location = .lobby

variable {lobby next : Lobby}

theorem seats_iff {number : RoomId} {room : Room} {player : PlayerId}
    (found : lobby.room? number = some room) : lobby.Seats number player ↔ player ∈ room.players := by
  simp [Seats, found]

/-- An orderly lobby stays orderly when one room is replaced by an orderly one or taken away. -/
theorem Orderly.of_room? (orderly : lobby.Orderly) {number : RoomId}
    (config : next.config = lobby.config)
    (elsewhere : ∀ asked, asked ≠ number → next.room? asked = lobby.room? asked)
    (here : ∀ room, next.room? number = some room →
      room.id = number ∧ room.config = lobby.config ∧ room.players ≠ [] ∧ room.Sound) :
    next.Orderly := by
  have all : ∀ {asked room}, next.room? asked = some room →
      room.id = asked ∧ room.config = next.config ∧ room.players ≠ [] ∧ room.Sound := by
    intro asked room found
    rw [config]
    by_cases same : asked = number
    · subst same
      exact here room found
    · rw [elsewhere asked same] at found
      exact ⟨orderly.filed found, orderly.alike found, orderly.occupied found, orderly.sound found⟩
  refine ⟨?_, ?_, fun found => (all found).1, fun found => (all found).2.1,
    fun found => (all found).2.2.1, fun found => (all found).2.2.2⟩
  · rw [config]
    exact orderly.two_le_capacity
  · rw [config]
    exact orderly.capacity_le

end Lobby

namespace Server

variable {server next : Server}

/-! ## Linked servers -/

/-- A session that stands where the seats say. -/
structure Fits (server : Server) (session : Session) : Prop where
  unnamed : session.identity = none → session.location = .unnamed
  issued : ∀ {player}, session.player? = some player → player < server.nextPlayer
  placed : ∀ {player}, session.player? = some player →
    server.lobby.Places player session.location

/-- No reference between sessions, rooms and games points nowhere. -/
structure Linked (server : Server) : Prop where
  indexed : server.sessions.Indexed
  orderly : server.lobby.Orderly
  fits : ∀ {id session}, server.sessions.get? id = some session → server.Fits session
  carried : ∀ {number player}, server.lobby.Seats number player →
    ∃ id session, server.sessions.get? id = some session ∧ session.player? = some player

theorem Fits.of_same {session later : Session} (fits : server.Fits session)
    (lobby : next.lobby = server.lobby) (issued : server.nextPlayer ≤ next.nextPlayer)
    (identity : session.identity = later.identity) (location : session.location = later.location) :
    next.Fits later := by
  have player : session.player? = later.player? := congrArg (Option.map Identity.player) identity
  refine ⟨?_, ?_, ?_⟩
  · intro unnamed
    rw [← location]
    exact fits.unnamed (identity.trans unnamed)
  · intro player' carries
    exact (fits.issued (player.trans carries)).trans_le issued
  · intro player' carries
    rw [lobby, ← location]
    exact fits.placed (player.trans carries)

theorem fits_of_unnamed {session : Session} (unnamed : session.identity = none)
    (location : session.location = .unnamed) : server.Fits session := by
  have nobody : ∀ {player}, session.player? ≠ some player := by
    simp [Session.player?_of_unnamed unnamed]
  exact ⟨fun _ => location, fun carries => (nobody carries).elim,
    fun carries => (nobody carries).elim⟩

namespace Linked

variable {id : ConnectionId} {session : Session} {player : PlayerId} {number : RoomId} {room : Room}

/-- Whoever stands in a room has a seat in it. -/
theorem exists_seat (linked : server.Linked) (found : server.sessions.get? id = some session)
    (inside : session.location.room? = some number) :
    ∃ identity room, session.identity = some identity ∧ server.lobby.room? number = some room ∧
      identity.player ∈ room.players ∧ session.location = room.place := by
  cases carries : session.identity with
  | none =>
    rw [(linked.fits found).unnamed carries] at inside
    cases inside
  | some identity =>
    have placed := (linked.fits found).placed (Session.player?_of_identity carries)
    by_cases seats : ∃ number, server.lobby.Seats number identity.player
    · rcases seats with ⟨seat, room, found', member⟩
      have here := placed.seated found' member
      rw [here, Room.room?_place, linked.orderly.filed found', Option.some_inj] at inside
      subst inside
      exact ⟨identity, room, rfl, found', member, here⟩
    · rw [placed.outside (not_exists.1 seats)] at inside
      cases inside

/-- A session outside all rooms has no seat. -/
theorem not_seats (linked : server.Linked) (found : server.sessions.get? id = some session)
    (outside : session.location.room? = none) (carries : session.player? = some player)
    (number : RoomId) : ¬server.lobby.Seats number player := by
  rintro ⟨room, found', member⟩
  have here := ((linked.fits found).placed carries).seated found' member
  rw [here, Room.room?_place] at outside
  cases outside

/-- Nobody sits in two rooms. -/
theorem alone (linked : server.Linked) {other : RoomId} (seats : server.lobby.Seats number player)
    (seats' : server.lobby.Seats other player) : number = other := by
  rcases linked.carried seats with ⟨id, session, found, carries⟩
  rcases seats with ⟨room, here, member⟩
  rcases seats' with ⟨room', there, member'⟩
  have placed := (linked.fits found).placed carries
  have same := (placed.seated here member).symm.trans (placed.seated there member')
  have numbers := congrArg Location.room? same
  rw [Room.room?_place, Room.room?_place, Option.some_inj] at numbers
  rw [← linked.orderly.filed here, ← linked.orderly.filed there, numbers]

theorem location_eq_unnamed_iff (linked : server.Linked)
    (found : server.sessions.get? id = some session) :
    session.location = .unnamed ↔ session.identity = none := by
  constructor
  · intro nowhere
    cases carries : session.identity with
    | none => rfl
    | some identity =>
      have player := Session.player?_of_identity carries
      have outside : session.location = .lobby := by
        apply ((linked.fits found).placed player).outside
        apply linked.not_seats found _ player
        rw [nowhere]
        rfl
      rw [nowhere] at outside
      cases outside
  · exact (linked.fits found).unnamed

/-! ## Sessions that come, stay and go -/

/-- Nothing that leaves everybody's name and place alone matters. -/
theorem of_alike (linked : server.Linked) (alike : server.sessions.Alike next.sessions)
    (lobby : next.lobby = server.lobby) (issued : next.nextPlayer = server.nextPlayer) :
    next.Linked := by
  refine ⟨linked.indexed.of_alike alike, lobby ▸ linked.orderly, ?_, ?_⟩
  · intro id session found
    rcases alike.exists_get? found with ⟨earlier, found', _, identity, location⟩
    exact (linked.fits found').of_same lobby issued.ge identity location
  · intro number player seats
    rw [lobby] at seats
    rcases linked.carried seats with ⟨id, session, found, carries⟩
    rcases alike.symm.exists_get? found with ⟨later, found', _, identity, _⟩
    exact ⟨id, later, found', by rwa [Session.player?, identity]⟩

theorem saying (linked : server.Linked) (mail : List Delivery) : (server.saying mail).Linked :=
  linked.of_alike (.refl _) rfl rfl

/-- Only what is changed in the register has to be looked at: the changed sessions stand where the
seats say, and whoever they carried to a seat is still carried. -/
theorem of_changes (linked : server.Linked) {changed : ConnectionId → Prop}
    (indexed : next.sessions.Indexed) (lobby : next.lobby = server.lobby)
    (issued : server.nextPlayer ≤ next.nextPlayer)
    (others : ∀ {asked}, ¬changed asked → next.sessions.get? asked = server.sessions.get? asked)
    (fits : ∀ {asked session}, changed asked → next.sessions.get? asked = some session →
      next.Fits session)
    (carried : ∀ {asked session player number}, changed asked →
      server.sessions.get? asked = some session → session.player? = some player →
      server.lobby.Seats number player →
      ∃ id session, next.sessions.get? id = some session ∧ session.player? = some player) :
    next.Linked := by
  refine ⟨indexed, lobby ▸ linked.orderly, ?_, ?_⟩
  · intro asked session found
    by_cases new : changed asked
    · exact fits new found
    · rw [others new] at found
      exact (linked.fits found).of_same lobby issued rfl rfl
  · intro number player seats
    rw [lobby] at seats
    rcases linked.carried seats with ⟨carrier, session, found, carries⟩
    by_cases old : changed carrier
    · exact carried old found carries seats
    · exact ⟨carrier, session, (others old).trans found, carries⟩

/-- A new connection has no name, so nothing refers to it. -/
theorem connect (linked : server.Linked) (id : ConnectionId) (now : Nanos) :
    ({ server with sessions := server.sessions.connect id now } : Server).Linked := by
  cases found : server.sessions.get? id with
  | some session =>
    rw [Sessions.connect_of_get? found]
    exact linked
  | none =>
    have after := Sessions.get?_connect found now
    refine @of_changes _ _ linked (· = id) (linked.indexed.connect id now) rfl le_rfl ?_ ?_ ?_
    · intro asked other
      exact (after asked).trans (if_neg other)
    · rintro asked session rfl found'
      cases ((after asked).trans (if_pos rfl)).symm.trans found'
      exact fits_of_unnamed rfl rfl
    · rintro asked session player number rfl found'
      cases found.symm.trans found'

/-- A session without a seat may end. -/
theorem close (linked : server.Linked)
    (standing : ∀ session player, server.sessions.get? id = some session →
      session.player? = some player → ∀ number, ¬server.lobby.Seats number player) :
    ({ server with sessions := (server.sessions.close id).2 } : Server).Linked := by
  have after := Sessions.get?_close server.sessions id
  refine @of_changes _ _ linked (· = id) (linked.indexed.close id) rfl le_rfl ?_ ?_ ?_
  · intro asked other
    exact (after asked).trans (if_neg other)
  · rintro asked session rfl found
    cases ((after asked).trans (if_pos rfl)).symm.trans found
  · rintro asked session player number rfl found carries seats
    exact (standing session player found carries number seats).elim

/-- Whoever takes a free nickname gets a new player, who stands in the lobby. -/
theorem named (linked : server.Linked) {identity : Identity}
    (found : server.sessions.get? session.id = some session) (unnamed : session.identity = none)
    (free : server.sessions.findName? identity.nickname = none)
    (new : identity.player = server.nextPlayer) :
    ({ server with
      nextPlayer := server.nextPlayer + 1
      sessions := server.sessions.named session identity } : Server).Linked := by
  have unknown : ∀ {carrier holder}, server.sessions.get? carrier = some holder →
      holder.player? ≠ some identity.player := by
    intro carrier holder found' carries
    have issued := (linked.fits found').issued carries
    rw [new] at issued
    exact lt_irrefl _ issued
  have fresh : server.sessions.findPlayer? identity.player = none := by
    rw [Option.eq_none_iff_forall_ne_some]
    intro carrier leads
    rcases (linked.indexed.byPlayer _ _).1 leads with ⟨holder, found', carries⟩
    exact unknown found' carries
  have unseated : ∀ number, ¬server.lobby.Seats number identity.player := by
    intro number seats
    rcases linked.carried seats with ⟨carrier, holder, found', carries⟩
    exact unknown found' carries
  have after := @Sessions.get?_named _ _ identity found
  refine @of_changes _ _ linked (· = session.id) (linked.indexed.named found unnamed free fresh) rfl
    (Nat.le_succ _) ?_ ?_ ?_
  · intro asked other
    exact (after asked).trans (if_neg other)
  · rintro asked later rfl found'
    cases ((after session.id).trans (if_pos rfl)).symm.trans found'
    refine ⟨?_, ?_, ?_⟩
    · intro nameless
      cases nameless
    · intro player carries
      cases carries
      simp [new]
    · intro player carries
      cases carries
      exact ⟨fun found'' member => (unseated _ ⟨_, found'', member⟩).elim, fun _ => rfl⟩
  · rintro asked holder player number rfl found' carries
    cases found.symm.trans found'
    rw [Session.player?_of_unnamed unnamed] at carries
    cases carries

/-- Whoever takes a sleeper's nickname stands where the sleeper stood. -/
theorem inherited (linked : server.Linked) {previous heir : Session} {identity : Identity}
    (found : server.sessions.get? previous.id = some previous)
    (found' : server.sessions.get? heir.id = some heir) (carries : previous.identity = some identity)
    (unnamed : heir.identity = none) (different : previous.id ≠ heir.id) :
    ({ server with sessions := server.sessions.inherited previous heir identity } :
      Server).Linked := by
  have after := @Sessions.get?_inherited _ _ _ identity found' different
  have taken := (after heir.id).trans (if_pos rfl)
  refine @of_changes _ _ linked (fun asked => asked = heir.id ∨ asked = previous.id)
    (linked.indexed.inherited found found' carries unnamed different) rfl le_rfl ?_ ?_ ?_
  · intro asked other
    rw [not_or] at other
    exact (after asked).trans ((if_neg other.1).trans (if_neg other.2))
  · rintro asked later (rfl | rfl) found''
    · cases taken.symm.trans found''
      exact (linked.fits found).of_same rfl le_rfl rfl rfl
    · cases ((after previous.id).trans ((if_neg different).trans (if_pos rfl))).symm.trans found''
  · rintro asked holder player number (rfl | rfl) here owns _
    · cases found'.symm.trans here
      rw [Session.player?_of_unnamed unnamed] at owns
      cases owns
    · cases found.symm.trans here
      exact ⟨heir.id, heir.inherit previous, taken, owns⟩

end Linked

end Server

end CardTable
