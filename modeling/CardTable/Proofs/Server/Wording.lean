import CardTable.Proofs.Server.Record
import CardTable.Proofs.Server.Veiled
import CardTable.Proofs.Wire.Grammar
import CardTable.Proofs.Wire.Lines

/-!
# What is said while a call lasts

Nothing is queued while a call lasts: each session has just the bytes to send that it had before,
until the call ends. And nothing improper is said, because a nickname is checked when a request is
read, and from then on is only handed from session to session. Neither depends on the configuration,
nor on whether the books of the server agree with each other.
-/

namespace CardTable

namespace Request

theorem valid_of_ofWords {frame : Wire.Frame} {nickname : String}
    (read : ofWords frame = .ok (.name nickname)) : IsNickname nickname := by
  cases spells_of_ofWords read with
  | name some_character short visible no_bar not_opening =>
    refine ⟨List.length_pos_iff.1 some_character, short, not_opening, ?_⟩
    rw [List.all_eq_true]
    intro character member
    have not_bar : character ≠ '|' := by
      rintro rfl
      exact no_bar member
    have visible := visible character member
    simp [isNicknameCharacter, visible, not_bar]

end Request

namespace Session

/-- A session under its own connection, with a nickname that may be taken if it has one, and with
just the given bytes to send. -/
structure Holds (session : Session) (id : ConnectionId) (output : Bytes) : Prop where
  filed : session.id = id
  outgoing : session.outgoing = output
  valid : ∀ identity, session.identity = some identity → IsNickname identity.nickname

variable {session changed : Session} {id : ConnectionId} {output : Bytes}

theorem Holds.of_standing (holds : session.Holds id output)
    (standing : changed.standing = session.standing)
    (outgoing : changed.outgoing = session.outgoing) : changed.Holds id output := by
  rcases standing_eq_iff.1 standing with ⟨same_id, same_identity, _⟩
  refine ⟨same_id.trans holds.filed, outgoing.trans holds.outgoing, ?_⟩
  rw [same_identity]
  exact holds.valid

theorem Holds.valid_nickname? {nickname : String} (holds : session.Holds id output)
    (named : session.nickname? = some nickname) : IsNickname nickname := by
  rcases Option.map_eq_some_iff.1 named with ⟨identity, carries, rfl⟩
  exact holds.valid identity carries

theorem holds_fresh (id : ConnectionId) (now : Nanos) : (fresh id now).Holds id [] :=
  ⟨rfl, rfl, fun _ carries => by cases carries⟩

end Session

namespace Server

theorem Ending.proper_verdict (ending : Ending) : ending.verdict.Proper := by
  cases ending <;> exact Notice.proper_of_nameless rfl

/-- A call is under way: nothing has been queued on top of the given bytes, and nothing improper has
been said. -/
structure Underway (output : ConnectionId → Bytes) (server : Server) : Prop where
  holds : ∀ {id session}, server.sessions.get? id = some session → session.Holds id (output id)
  said : ∀ delivery ∈ server.said, delivery.notice.Proper

variable {output : ConnectionId → Bytes} {server next : Server} {id : ConnectionId}
  {identity : Identity} {number : RoomId} {verb : Verb}

namespace Underway

variable (underway : Underway output server)

include underway

theorem filed {id : ConnectionId} {session : Session}
    (found : server.sessions.get? id = some session) : session.id = id :=
  (underway.holds found).filed

/-! ## Nicknames that may be said -/

theorem valid_nicknameOf? {player : PlayerId} {nickname : String}
    (known : server.nicknameOf? player = some nickname) : IsNickname nickname := by
  rcases Option.bind_eq_some_iff.1 known with ⟨session, carrier, named⟩
  rcases Option.bind_eq_some_iff.1 carrier with ⟨id, _, found⟩
  exact (underway.holds found).valid_nickname? named

theorem valid_occupant? {player : PlayerId} {occupant : Occupant}
    (known : server.occupant? player = some occupant) : IsNickname occupant.nickname := by
  rcases Option.bind_eq_some_iff.1 known with ⟨session, carrier, shown⟩
  rcases Option.bind_eq_some_iff.1 carrier with ⟨id, _, found⟩
  rcases Option.bind_eq_some_iff.1 shown with ⟨nickname, named, rest⟩
  cases rest
  exact (underway.holds found).valid_nickname? named

theorem proper_room {view : RoomView} (seen : server.roomView? number = some view) :
    (Notice.room view).Proper := by
  rcases Option.map_eq_some_iff.1 seen with ⟨room, _, rfl⟩
  intro nickname member
  rcases List.mem_map.1 member with ⟨occupant, seated, rfl⟩
  rcases List.mem_filterMap.1 seated with ⟨player, _, known⟩
  exact underway.valid_occupant? known

theorem valid_turnView? {turn : TurnView} (seen : server.turnView? number = some turn) :
    IsNickname turn.nickname := by
  rcases Option.bind_eq_some_iff.1 seen with ⟨game, _, shown⟩
  rcases Option.bind_eq_some_iff.1 shown with ⟨player, _, named⟩
  rcases Option.bind_eq_some_iff.1 named with ⟨nickname, known, rest⟩
  cases rest
  exact underway.valid_nicknameOf? known

theorem valid_seated? (seated : server.seated? id = some (identity, number)) :
    IsNickname identity.nickname := by
  rcases seated?_eq_some seated with ⟨session, found, carries, _⟩
  exact (underway.holds found).valid identity carries

theorem valid_sender {location : Location}
    (sent : server.sender id verb = .ok (identity, location)) : IsNickname identity.nickname := by
  rcases sender_eq_ok sent with ⟨session, found, carries, _⟩
  exact (underway.holds found).valid identity carries

theorem valid_inLobby (allowed : server.inLobby id verb = .ok identity) :
    IsNickname identity.nickname := by
  rcases Game.bind_eq_ok allowed with ⟨⟨owner, location⟩, sent, rest⟩
  cases location with
  | lobby =>
    cases rest
    exact underway.valid_sender sent
  | unnamed | room _ | game _ => cases rest

theorem valid_inRoom (allowed : server.inRoom id verb = .ok (identity, number)) :
    IsNickname identity.nickname := by
  rcases Game.bind_eq_ok allowed with ⟨⟨owner, location⟩, sent, rest⟩
  dsimp only at rest
  split at rest
  · cases rest
    exact underway.valid_sender sent
  · cases rest

theorem valid_inGame {playing : Playing} (allowed : server.inGame id verb = .ok playing) :
    IsNickname playing.identity.nickname := by
  rw [inGame_eq] at allowed
  rcases Game.bind_eq_ok allowed with ⟨⟨owner, location⟩, sent, rest⟩
  cases location with
  | unnamed | lobby | room _ => cases rest
  | game number =>
    dsimp only at rest
    split at rest
    · split at rest
      · cases rest
        exact underway.valid_sender sent
      · cases rest
    · cases rest

/-! ## Small changes -/

theorem of_eq (sessions : next.sessions = server.sessions) (said : next.said = server.said) :
    Underway output next := by
  refine ⟨?_, ?_⟩
  · rw [sessions]
    exact underway.holds
  · rw [said]
    exact underway.said

theorem of_sessions {sessions : Sessions}
    (kept : ∀ {id later}, sessions.get? id = some later →
      ∃ earlier, server.sessions.get? id = some earlier ∧ later.standing = earlier.standing ∧
        later.outgoing = earlier.outgoing) : Underway output { server with sessions } := by
  refine ⟨?_, underway.said⟩
  intro id later found
  rcases kept found with ⟨earlier, found', standing, outgoing⟩
  exact (underway.holds found').of_standing standing outgoing

/-- One session is changed, and perhaps what it has to send. -/
theorem put {left : ConnectionId → Bytes} {session changed : Session}
    (found : server.sessions.get? id = some session) (holds : changed.Holds id (left id))
    (others : ∀ asked, asked ≠ id → left asked = output asked) :
    Underway left { server with sessions := server.sessions.put changed } := by
  refine ⟨?_, underway.said⟩
  intro asked later found'
  change (server.sessions.put changed).get? asked = some later at found'
  rw [Sessions.get?_put_of_get? found holds.filed] at found'
  split at found'
  · next same =>
    subst same
    cases found'
    exact holds
  · next other =>
    rw [others asked other]
    exact underway.holds found'

theorem saying {mail : List Delivery} (proper : ∀ delivery ∈ mail, delivery.notice.Proper) :
    Underway output (server.saying mail) := by
  refine ⟨underway.holds, ?_⟩
  intro delivery member
  rcases List.mem_append.1 member with new | old
  · exact proper delivery (List.mem_reverse.1 new)
  · exact underway.said delivery old

theorem tell {notice : Notice} (proper : notice.Proper) (id : ConnectionId) :
    Underway output (server.tell id notice) := by
  rw [tell_eq_saying]
  exact underway.saying (by simpa using proper)

theorem tellWhen (condition : Bool) {notice : Notice} (proper : notice.Proper) (id : ConnectionId) :
    Underway output (if condition then server.tell id notice else server) := by
  split
  · exact underway.tell proper id
  · exact underway

theorem tellPlayers {notice : PlayerId → Notice} (proper : ∀ player, (notice player).Proper)
    (players : List PlayerId) : Underway output (server.tellPlayers players notice) := by
  rw [tellPlayers_eq_saying]
  apply underway.saying
  intro delivery member
  rcases List.mem_filterMap.1 member with ⟨player, _, found⟩
  rcases Option.map_eq_some_iff.1 found with ⟨id, _, rfl⟩
  exact proper player

theorem tellRoom {notice : Notice} (proper : notice.Proper) (number : RoomId)
    (except : Option PlayerId) : Underway output (server.tellRoom number notice except) :=
  underway.tellPlayers (fun _ => proper) _

theorem tellTurn (number : RoomId) : Underway output (server.tellTurn number) := by
  rw [Server.tellTurn]
  split
  · next turn seen =>
    have proper : (Notice.turn turn).Proper :=
      Notice.proper_of_single rfl (underway.valid_turnView? seen)
    exact underway.tellRoom proper number none
  · exact underway

theorem tellWake (id : ConnectionId) : Underway output (server.tellWake id) := by
  rw [Server.tellWake]
  split
  · next identity number seated =>
    have proper : (Notice.awake identity.nickname).Proper :=
      Notice.proper_of_single rfl (underway.valid_seated? seated)
    exact underway.tellRoom proper number _
  · exact underway

theorem move (id : ConnectionId) (location : Location) :
    Underway output (server.move id location) := by
  refine ⟨?_, underway.said⟩
  intro asked later found
  rw [Server.move, Sessions.get?_modify] at found
  split at found
  · rcases Option.map_eq_some_iff.1 found with ⟨earlier, found', rfl⟩
    have holds := underway.holds found'
    exact ⟨holds.filed, holds.outgoing, holds.valid⟩
  · exact underway.holds found

theorem moveAll (ids : List ConnectionId) (location : Location) :
    Underway output (server.moveAll ids location) := by
  induction ids generalizing server with
  | nil => exact underway
  | cons id ids ih => exact ih (underway.move id location)

theorem finishGame (number : RoomId) (ending : Ending) :
    Underway output (server.finishGame number ending) := by
  rw [Server.finishGame]
  split
  · exact underway
  · next room _ =>
    have concluded : Underway output { server with lobby := server.lobby.put room.conclude.2 } :=
      underway.of_eq rfl rfl
    dsimp only
    split
    · exact concluded
    · next game _ =>
      have told := concluded.tellPlayers (fun _ => Ending.proper_verdict ending)
        (room.conclude.2.players.filter fun player => (game.hand? player).any (· ≠ []))
      refine told.tellRoom ?_ number none
      intro nickname member
      rcases List.mem_filterMap.1 member with ⟨player, _, known⟩
      exact told.valid_nicknameOf? known

theorem depart (valid : IsNickname identity.nickname)
    (left : server.depart identity number = .ok next) : Underway output next := by
  have proper : (Notice.leave identity.nickname).Proper := Notice.proper_of_single rfl valid
  rw [Server.depart] at left
  split at left
  · cases left
  · next departure lobby _ =>
    have rest : Underway output { server with lobby } := underway.of_eq rfl rfl
    have told := rest.tellRoom proper number none
    cases departure with
    | emptied =>
      cases left
      exact told.of_eq rfl rfl
    | endedGame =>
      cases left
      exact told.finishGame number .forfeit
    | stayed =>
      cases left
      split
      · exact told.tellTurn number
      · exact told

/-! ## Sessions that end and sessions that take over -/

theorem unseat (id : ConnectionId) : Underway output (server.unseat id) := by
  rw [Server.unseat]
  split
  · exact underway
  · next identity number seated =>
    have valid := underway.valid_seated? seated
    have proper : (Notice.dead identity.nickname).Proper := Notice.proper_of_single rfl valid
    have told := underway.tellRoom proper number (some identity.player)
    dsimp only
    split
    · next rest left => exact told.depart valid left
    · exact told

theorem terminate (id : ConnectionId) (reason : EndReason) :
    Underway output (server.terminate id reason) := by
  have unseated := underway.unseat id
  rcases shut_eq (server.unseat id) id reason with ⟨cause, shut⟩
  rw [terminate_eq, shut]
  have closed : Underway output { server.unseat id with
      sessions := ((server.unseat id).sessions.close id).2 } := by
    apply unseated.of_sessions
    intro asked later found
    rw [Sessions.get?_close] at found
    split at found
    · cases found
    · exact ⟨later, found, rfl, rfl⟩
  exact closed.of_eq rfl rfl

theorem name {sessions : Sessions} (valid : IsNickname identity.nickname)
    (named : server.sessions.name id identity = .ok sessions) :
    Underway output { server with sessions } := by
  rcases Sessions.exists_of_name underway.filed named with ⟨session, found, -, -, rfl⟩
  refine ⟨?_, underway.said⟩
  intro asked later found'
  change (server.sessions.named session identity).get? asked = some later at found'
  rw [Sessions.get?_named found] at found'
  split at found'
  · next same =>
    subst same
    cases found'
    refine ⟨rfl, (underway.holds found).outgoing, ?_⟩
    intro given carries
    cases carries
    exact valid
  · exact underway.holds found'

/-- A nickname that is taken over has been checked when it was given. -/
theorem reclaim {sessions : Sessions} {owner : ConnectionId} {ended : Session}
    (taken : server.sessions.reclaim owner id = .ok (ended, sessions)) :
    Underway output { server with sessions } := by
  rcases Sessions.exists_of_reclaim underway.filed taken with
    ⟨previous, heir, found, found', -, different, -, rfl⟩
  have own := underway.filed found
  have own' := underway.filed found'
  subst own own'
  refine ⟨?_, underway.said⟩
  intro asked later kept
  change (server.sessions.succeeded previous heir).get? asked = some later at kept
  rw [Sessions.get?_succeeded found' different] at kept
  split at kept
  · next same =>
    subst same
    cases kept
    exact ⟨rfl, (underway.holds found').outgoing, (underway.holds found).valid⟩
  · split at kept
    · cases kept
    · exact underway.holds kept

/-! ## Requests -/

theorem checked {α : Type} {check : Except ServerError α} {serve : α → Outcome}
    (serves : ∀ value, check = .ok value → Underway output (serve value).server) :
    Underway output (server.checked check serve).server := by
  cases check with
  | ok value => exact serves value rfl
  | error cause => exact underway

theorem startIfFull (number : RoomId) : Underway output (server.startIfFull number).server := by
  rw [Server.startIfFull]
  split
  · exact underway
  · next room _ =>
    split
    · exact underway
    · split
      · exact underway
      · next lobby _ =>
        have begun : Underway output { server with lobby } := underway.of_eq rfl rfl
        have moved := begun.moveAll (room.players.filterMap server.sessions.findPlayer?)
          (.game number)
        have told := moved.tellRoom (Notice.proper_of_nameless rfl : Notice.gameStart.Proper)
          number none
        refine Underway.tellTurn ?_ number
        exact told.tellPlayers (fun _ => Notice.proper_of_nameless rfl) room.players

theorem serveName {nickname : String} (valid : IsNickname nickname) (id : ConnectionId) :
    Underway output (server.serveName id nickname).server := by
  have accepted : (Notice.ok .name).Proper := Notice.proper_of_nameless rfl
  rw [Server.serveName]
  split
  · exact underway
  · split
    · exact underway
    · split
      · next owner _ =>
        split
        · split
          · exact underway
          · next previous sessions taken =>
            have reclaimed := underway.reclaim taken
            have closed : Underway output
                (({ server with sessions } : Server).close previous.id .replaced) :=
              reclaimed.of_eq rfl rfl
            exact (closed.tell accepted id).tellWake id
        · exact underway.tell (Notice.proper_of_nameless rfl) id
      · have issued : Underway output { server with nextPlayer := server.nextPlayer + 1 } :=
          underway.of_eq rfl rfl
        dsimp only
        split
        · exact issued
        · next sessions named => exact (issued.name valid named).tell accepted id

theorem serveListRooms (id : ConnectionId) : Underway output (server.serveListRooms id).server := by
  apply underway.checked
  intro identity _
  exact underway.tell (Notice.proper_of_nameless rfl) id

theorem serveCreateRoom (id : ConnectionId) :
    Underway output (server.serveCreateRoom id).server := by
  rw [serveCreateRoom_eq]
  apply underway.checked
  intro identity _
  split
  · exact underway.tell (Notice.proper_of_nameless rfl) id
  · next number created _ =>
    split
    · exact underway.of_eq rfl rfl
    · next lobby _ =>
      have opened : Underway output { server with lobby } := underway.of_eq rfl rfl
      have moved := opened.move id (.room number)
      exact (moved.tell (Notice.proper_of_nameless rfl) id).startIfFull number

theorem serveJoinRoom (id : ConnectionId) (number : RoomId) :
    Underway output (server.serveJoinRoom id number).server := by
  rw [serveJoinRoom_eq]
  apply underway.checked
  intro identity allowed
  have proper : (Notice.join identity.nickname).Proper :=
    Notice.proper_of_single rfl (underway.valid_inLobby allowed)
  split
  · exact underway.tell (Notice.proper_of_nameless rfl) id
  · next lobby _ =>
    have joined : Underway output { server with lobby } := underway.of_eq rfl rfl
    have moved := joined.move id (.room number)
    have told := moved.tell (Notice.proper_of_nameless rfl : (Notice.ok .joinRoom).Proper) id
    exact (told.tellRoom proper number (some identity.player)).startIfFull number

theorem serveLeaveRoom (id : ConnectionId) : Underway output (server.serveLeaveRoom id).server := by
  rw [serveLeaveRoom_eq]
  apply underway.checked
  rintro ⟨identity, number⟩ allowed
  dsimp only
  split
  · exact underway
  · next rest left =>
    have departed := underway.depart (underway.valid_inRoom allowed) left
    exact (departed.move id .lobby).tell (Notice.proper_of_nameless rfl) id

theorem serveRoomInfo (id : ConnectionId) : Underway output (server.serveRoomInfo id).server := by
  apply underway.checked
  rintro ⟨identity, number⟩ _
  dsimp only
  split
  · next view seen => exact underway.tell (underway.proper_room seen) id
  · exact underway

theorem proper_snapshot {session : Session} {view : Snapshot}
    (shown : server.snapshot session = .ok view) : (Notice.state view).Proper := by
  unfold Server.snapshot at shown
  split at shown
  · cases shown
    exact Notice.proper_of_nameless rfl
  · cases shown
    exact Notice.proper_of_nameless rfl
  · split at shown
    · next view seen =>
      cases shown
      exact underway.proper_room seen
    · cases shown
  · next number _ =>
    split at shown
    · next view seen =>
      cases shown
      intro nickname member
      rcases List.mem_append.1 member with seated | current
      · exact underway.proper_room seen nickname seated
      · rw [Option.mem_toList] at current
        rcases Option.map_eq_some_iff.1 current with ⟨turn, on, rfl⟩
        exact underway.valid_turnView? on
    · cases shown

theorem serveState (id : ConnectionId) : Underway output (server.serveState id).server := by
  rw [Server.serveState]
  split
  · exact underway
  · apply underway.checked
    intro view shown
    exact underway.tell (underway.proper_snapshot shown) id

theorem tellDraw {playing : Playing} (valid : IsNickname playing.identity.nickname)
    (id : ConnectionId) (cards : List Card) :
    Underway output (server.tellDraw id playing cards) := by
  have told := underway.tell (Notice.proper_of_nameless rfl : (Notice.cards cards).Proper) id
  exact told.tellRoom (Notice.proper_of_single rfl valid) _ _

theorem servePlay (id : ConnectionId) (card : Card) :
    Underway output (server.servePlay id card).server := by
  apply underway.checked
  intro playing allowed
  have proper : (Notice.played playing.identity.nickname card).Proper :=
    Notice.proper_of_single rfl (underway.valid_inGame allowed)
  dsimp only
  split
  · exact underway
  · next played game _ =>
    have changed : Underway output (server.putGame playing.room game) := underway.of_eq rfl rfl
    have answered := changed.tell (Notice.proper_of_nameless rfl : (Notice.ok .play).Proper) id
    have told := answered.tellRoom proper playing.room.id (some playing.identity.player)
    have won := told.tellWhen played.emptiedHand (Notice.proper_of_nameless rfl : Notice.win.Proper)
      id
    split
    · exact won.finishGame _ _
    · exact won.tellTurn _

theorem serveDraw (id : ConnectionId) : Underway output (server.serveDraw id).server := by
  apply underway.checked
  intro playing allowed
  split
  · exact underway
  · next cards game _ =>
    have changed : Underway output (server.putGame playing.room game) := underway.of_eq rfl rfl
    exact (changed.tellDraw (underway.valid_inGame allowed) id cards).tellTurn _

theorem servePass (id : ConnectionId) : Underway output (server.servePass id).server := by
  apply underway.checked
  intro playing allowed
  have valid := underway.valid_inGame allowed
  dsimp only
  split
  · exact underway
  · next passed game _ =>
    have changed : Underway output (server.putGame playing.room game) := underway.of_eq rfl rfl
    refine Underway.tellTurn ?_ _
    cases passed with
    | skipped => exact changed.tellRoom (Notice.proper_of_single rfl valid) _ _
    | drew cards => exact changed.tellDraw valid id cards

theorem serve {request : Request}
    (valid : ∀ nickname, request = .name nickname → IsNickname nickname) (id : ConnectionId) :
    Underway output (server.serve id request).server := by
  cases request with
  | ok | pong => exact underway
  | name nickname => exact underway.serveName (valid nickname rfl) id
  | listRooms => exact underway.serveListRooms id
  | joinRoom number => exact underway.serveJoinRoom id number
  | createRoom => exact underway.serveCreateRoom id
  | leaveRoom => exact underway.serveLeaveRoom id
  | roomInfo => exact underway.serveRoomInfo id
  | state => exact underway.serveState id
  | play card => exact underway.servePlay id card
  | draw => exact underway.serveDraw id
  | pass => exact underway.servePass id

/-- This is where nicknames are checked: a request that is read from words asks for none but those
that may be taken. -/
theorem dispatch (id : ConnectionId) (frame : Wire.Frame) :
    Underway output (server.dispatch id frame).server := by
  rw [Server.dispatch]
  split
  · exact underway
  · split
    · next request read =>
      apply underway.serve
      rintro nickname rfl
      exact Request.valid_of_ofWords read
    · exact underway

end Underway

end Server

end CardTable
