import CardTable.Proofs.Server.Seats

/-!
# The books of connections

A connection is in the books if it is live, and once more for each time that it is to be closed.
Serving a frame leaves everybody in the books as often as before, whatever the configuration: most
requests let nobody come or go, and whoever takes over a sleeper has the sleeper's connection
closed.
-/

namespace CardTable

theorem Sessions.deliver_nil (sessions : Sessions) : sessions.deliver [] = sessions := by
  have same : (sessions.deliver []).live = sessions.live := by
    apply Directory.ext_get?
    intro asked
    change (sessions.deliver []).get? asked = sessions.get? asked
    rw [get?_deliver]
    simp [bytesFor]
  exact congrArg (fun live => { sessions with live }) same

/-- The server that a request leaves behind, done or failed. -/
def Outcome.server : Outcome → Server
  | .ok next => next
  | .error failure => failure.server

namespace Server

variable {server middle next : Server} {id : ConnectionId} {session : Session}

/-! ## Changes in which nobody comes or goes -/

/-- The same connections are live, and the same ones are to be closed. -/
structure Steady (server next : Server) : Prop where
  ids : ∀ asked, (next.sessions.get? asked).map Session.id =
    (server.sessions.get? asked).map Session.id
  closings : next.closings = server.closings

namespace Steady

theorem refl (server : Server) : server.Steady server :=
  ⟨fun _ => rfl, rfl⟩

theorem trans (steady : server.Steady middle) (later : middle.Steady next) : server.Steady next :=
  ⟨fun asked => (later.ids asked).trans (steady.ids asked),
    later.closings.trans steady.closings⟩

theorem of_eq (sessions : next.sessions = server.sessions)
    (closings : next.closings = server.closings) : server.Steady next :=
  ⟨fun asked => by rw [sessions], closings⟩

theorem of_alike (alike : server.sessions.Alike next.sessions)
    (closings : next.closings = server.closings) : server.Steady next := by
  refine ⟨fun asked => ?_, closings⟩
  have same := congrArg (Option.map Prod.fst) (alike.standing asked)
  rwa [Option.map_map, Option.map_map] at same

theorem isSome (steady : server.Steady next) (asked : ConnectionId) :
    (next.sessions.get? asked).isSome = (server.sessions.get? asked).isSome := by
  simpa using congrArg Option.isSome (steady.ids asked)

end Steady

theorem steady_moveAll (server : Server) (ids : List ConnectionId) (location : Location) :
    server.Steady (server.moveAll ids location) := by
  have moved := moved_moveAll server ids location
  refine ⟨?_, ?_⟩
  · intro asked
    rw [moved.get?, Option.map_map]
    congr 1
    funext session
    simp only [Function.comp_apply]
    split <;> rfl
  · induction ids generalizing server with
    | nil => rfl
    | cons id ids ih => exact ih _ (moved_moveAll _ ids location)

theorem steady_move (server : Server) (id : ConnectionId) (location : Location) :
    server.Steady (server.move id location) :=
  steady_moveAll server [id] location

theorem steady_finishGame (server : Server) (number : RoomId) (ending : Ending) :
    server.Steady (server.finishGame number ending) := by
  simp only [finishGame, tellRoom_eq_saying, tellPlayers_eq_saying]
  split
  · exact .refl _
  · split <;> exact .of_eq rfl rfl

theorem steady_depart {identity : Identity} {number : RoomId}
    (left : server.depart identity number = .ok next) : server.Steady next := by
  simp only [depart, tellRoom_eq_saying, tellTurn_eq_saying] at left
  split at left
  · cases left
  · split at left
    · cases left
      exact .of_eq rfl rfl
    · cases left
      refine Steady.trans ?_ (steady_finishGame _ _ _)
      exact .of_eq rfl rfl
    · cases left
      split <;> exact .of_eq rfl rfl

theorem steady_startIfFull (server : Server) (number : RoomId) :
    server.Steady (server.startIfFull number).server := by
  simp only [startIfFull, tellRoom_eq_saying, tellPlayers_eq_saying, tellTurn_eq_saying]
  split
  · exact .refl _
  · next room _ =>
    split
    · exact .refl _
    · split
      · exact .refl _
      · next lobby _ =>
        have moved := steady_moveAll { server with lobby }
          (room.players.filterMap server.sessions.findPlayer?) (.game number)
        have begun : server.Steady { server with lobby } := .of_eq rfl rfl
        refine (begun.trans moved).trans ?_
        exact .of_eq rfl rfl

/-! ## Requests -/

theorem steady_checked {α : Type} (check : Except ServerError α) {serve : α → Outcome}
    (steady : ∀ value, server.Steady (serve value).server) :
    server.Steady (server.checked check serve).server := by
  cases check with
  | ok value => exact steady value
  | error cause => exact .refl _

theorem steady_seated {lobby : Lobby} {number : RoomId} {mail : List Delivery} :
    server.Steady (((({ server with lobby } : Server).move id (.room number)).saying
      mail).startIfFull number).server := by
  have begun : server.Steady { server with lobby } := .of_eq rfl rfl
  have moved := steady_move { server with lobby } id (.room number)
  refine ((begun.trans moved).trans ?_).trans (steady_startIfFull _ number)
  exact .of_eq rfl rfl

theorem steady_createRoom (server : Server) (id : ConnectionId) :
    server.Steady (server.serveCreateRoom id).server := by
  rw [serveCreateRoom_eq]
  apply steady_checked
  intro identity
  split
  · exact .of_eq rfl rfl
  · split
    · exact .of_eq rfl rfl
    · rw [tell_eq_saying]
      exact steady_seated

theorem steady_joinRoom (server : Server) (id : ConnectionId) (number : RoomId) :
    server.Steady (server.serveJoinRoom id number).server := by
  rw [serveJoinRoom_eq]
  apply steady_checked
  intro identity
  split
  · exact .of_eq rfl rfl
  · rw [tell_eq_saying, tellRoom_eq_saying, saying_saying]
    exact steady_seated

theorem steady_leaveRoom (server : Server) (id : ConnectionId) :
    server.Steady (server.serveLeaveRoom id).server := by
  rw [serveLeaveRoom_eq]
  apply steady_checked
  rintro ⟨identity, number⟩
  dsimp only
  split
  · exact .refl _
  · next next left =>
    have moved := (steady_depart left).trans (steady_move next id .lobby)
    exact moved.trans (.of_eq rfl rfl)

theorem steady_play (server : Server) (id : ConnectionId) (card : Card) :
    server.Steady (server.servePlay id card).server := by
  apply steady_checked
  intro playing
  dsimp only
  split
  · exact .refl _
  · next played game _ =>
    simp only [tell_eq_saying, tellRoom_eq_saying, tellTurn_eq_saying]
    split
    · refine Steady.trans ?_ (steady_finishGame _ _ _)
      split <;> exact .of_eq rfl rfl
    · split <;> exact .of_eq rfl rfl

theorem steady_draw (server : Server) (id : ConnectionId) :
    server.Steady (server.serveDraw id).server := by
  apply steady_checked
  intro playing
  simp only [tellDraw, tell_eq_saying, tellRoom_eq_saying, tellTurn_eq_saying]
  split
  · exact .refl _
  · exact .of_eq rfl rfl

theorem steady_pass (server : Server) (id : ConnectionId) :
    server.Steady (server.servePass id).server := by
  apply steady_checked
  intro playing
  simp only [tellDraw, tell_eq_saying, tellRoom_eq_saying, tellTurn_eq_saying]
  split
  · exact .refl _
  · split <;> exact .of_eq rfl rfl

/-! ## The books -/

/-- How often a connection is in the books: once if it is live, and once for each time that it is to
be closed. -/
def tally (server : Server) (id : ConnectionId) : Nat :=
  (if (server.sessions.get? id).isSome then 1 else 0) +
    (server.closings.map Closing.connection).count id

/-- Every session is filed under its own connection. -/
def Filed (server : Server) : Prop :=
  ∀ ⦃id session⦄, server.sessions.get? id = some session → session.id = id

/-- A server in which every connection is in the books as often as before. -/
structure Balances (server next : Server) : Prop where
  filed : next.Filed
  tally : ∀ id, next.tally id = server.tally id

theorem Balances.refl (filed : server.Filed) : server.Balances server :=
  ⟨filed, fun _ => rfl⟩

theorem Balances.trans (balances : server.Balances middle) (later : middle.Balances next) :
    server.Balances next :=
  ⟨later.filed, fun id => (later.tally id).trans (balances.tally id)⟩

theorem Steady.balances (steady : server.Steady next) (filed : server.Filed) :
    server.Balances next := by
  refine ⟨?_, fun id => by rw [tally, tally, steady.isSome, steady.closings]⟩
  intro id later found
  have same := steady.ids id
  rw [found, Option.map_some] at same
  rcases Option.map_eq_some_iff.1 same.symm with ⟨session, found', ids⟩
  exact ids.symm.trans (filed found')

theorem tally_close (server : Server) (gone id : ConnectionId) (cause : ClosingCause) :
    (server.close gone cause).tally id = server.tally id + if id = gone then 1 else 0 := by
  have moved : (server.close gone cause).closings.map Closing.connection =
      server.closings.map Closing.connection ++ [gone] := List.map_append
  simp only [tally, moved, List.count_append, List.count_singleton, Nat.add_assoc]
  congr 2
  by_cases same : id = gone
  · simp [same]
  · simp [same, Ne.symm same]

/-- Whoever is not live any more and is to be closed instead is in the books as often as before. -/
theorem balances_of_close {rest : Sessions} {gone : ConnectionId} (filed : server.Filed)
    (live : (server.sessions.get? gone).isSome)
    (others : ∀ asked, (rest.get? asked).map Session.id =
      if asked = gone then none else (server.sessions.get? asked).map Session.id)
    (cause : ClosingCause) : server.Balances (({ server with sessions := rest } : Server).close gone
      cause) := by
  refine ⟨?_, ?_⟩
  · intro id later found
    change rest.get? id = some later at found
    have same := others id
    rw [found, Option.map_some] at same
    split at same
    · cases same
    · rcases Option.map_eq_some_iff.1 same.symm with ⟨session, found', ids⟩
      exact ids.symm.trans (filed found')
  · intro id
    have same := congrArg Option.isSome (others id)
    rw [Option.isSome_map] at same
    rw [tally_close, tally, tally, same]
    by_cases self : id = gone
    · subst self
      simp [live, Nat.add_comm]
    · simp [self]

/-! ## Names -/

/-- The connection that is served stays live, and everybody is in the books as often as before. -/
structure Serves (id : ConnectionId) (server next : Server) : Prop where
  balances : server.Balances next
  own : (server.sessions.get? id).isSome → (next.sessions.get? id).isSome

theorem Steady.serves (steady : server.Steady next) (filed : server.Filed) (id : ConnectionId) :
    Serves id server next :=
  ⟨steady.balances filed, fun live => (steady.isSome id).trans live⟩

theorem steady_put {changed : Session} (filed : server.Filed)
    (found : server.sessions.get? id = some session) (same : changed.standing = session.standing) :
    server.Steady { server with sessions := server.sessions.put changed } :=
  .of_alike (Sessions.alike_put found (filed found) same) rfl

theorem steady_named {sessions : Sessions} {identity : Identity} (filed : server.Filed)
    (named : server.sessions.name id identity = .ok sessions) :
    server.Steady { server with sessions } := by
  rcases Sessions.exists_of_name (filed ·) named with ⟨session, found, -, -, rfl⟩
  refine ⟨fun asked => ?_, rfl⟩
  change ((server.sessions.named session identity).get? asked).map Session.id = _
  rw [Sessions.get?_named found]
  split
  · next here => simp [here, found]
  · rfl

/-- A session that is taken over goes, and nobody else does. -/
theorem ids_of_reclaim {sessions : Sessions} {owner : ConnectionId} {previous : Session}
    (filed : server.Filed) (taken : server.sessions.reclaim owner id = .ok (previous, sessions)) :
    previous.id = owner ∧ (server.sessions.get? owner).isSome ∧ owner ≠ id ∧
      ∀ asked, (sessions.get? asked).map Session.id =
        if asked = owner then none else (server.sessions.get? asked).map Session.id := by
  rcases Sessions.exists_of_reclaim (filed ·) taken with
    ⟨holder, heir, found, found', -, different, rfl, rfl⟩
  have own := filed found
  have own' := filed found'
  subst own own'
  refine ⟨rfl, by simp [found], different, ?_⟩
  intro asked
  rw [Sessions.get?_succeeded found' different]
  split
  · next here => simp [here, found', Ne.symm different, Session.inherit]
  · split <;> rfl

/-- A request leaves its sender's connection live, and whoever goes is closed once. -/
theorem serves_name (filed : server.Filed) (nickname : String) :
    Serves id server (server.serveName id nickname).server := by
  have steady {next : Server} (steady : server.Steady next) := steady.serves filed id
  unfold serveName
  split
  · exact steady (.refl _)
  · split
    · exact steady (.refl _)
    · split
      · next owner _ =>
        split
        · split
          · exact steady (.refl _)
          · next previous sessions taken =>
            rcases ids_of_reclaim filed taken with ⟨same, live, different, ids⟩
            have closed := balances_of_close filed live ids .replaced
            rw [tellWake_eq_saying, tell_eq_saying, saying_saying, same]
            refine ⟨closed.trans (Steady.balances (.of_eq rfl rfl) closed.filed), ?_⟩
            intro own
            have kept := congrArg Option.isSome (ids id)
            rw [if_neg (Ne.symm different), Option.isSome_map, Option.isSome_map, own] at kept
            exact kept
        · exact steady (.of_eq rfl rfl)
      · dsimp only
        split
        · exact steady (.of_eq rfl rfl)
        · next sessions given =>
          let issued : Server := { server with nextPlayer := server.nextPlayer + 1 }
          have named : issued.Steady { issued with sessions } := steady_named filed given
          have begun : server.Steady issued := .of_eq rfl rfl
          exact steady ((begun.trans named).trans (.of_eq rfl rfl))

/-! ## Frames -/

theorem steady_request (server : Server) (id : ConnectionId) {request : Request}
    (other : ∀ nickname, request ≠ .name nickname) :
    server.Steady (server.serve id request).server := by
  cases request with
  | ok | pong => exact .refl _
  | name nickname => exact (other nickname rfl).elim
  | listRooms => exact steady_checked _ fun _ => .of_eq rfl rfl
  | joinRoom number => exact steady_joinRoom server id number
  | createRoom => exact steady_createRoom server id
  | leaveRoom => exact steady_leaveRoom server id
  | roomInfo =>
    apply steady_checked
    rintro ⟨identity, number⟩
    dsimp only
    split <;> exact .of_eq rfl rfl
  | state =>
    simp only [serve, serveState]
    split
    · exact .refl _
    · exact steady_checked _ fun _ => .of_eq rfl rfl
  | play card => exact steady_play server id card
  | draw => exact steady_draw server id
  | pass => exact steady_pass server id

theorem serves_frame (filed : server.Filed) (id : ConnectionId) (frame : Wire.Frame) :
    Serves id server (server.dispatch id frame).server := by
  have steady {next : Server} (steady : server.Steady next) := steady.serves filed id
  unfold dispatch
  split
  · exact steady (.refl _)
  · split
    · next request _ =>
      by_cases name : ∃ nickname, request = .name nickname
      · rcases name with ⟨nickname, rfl⟩
        exact serves_name filed nickname
      · exact steady (steady_request server id (not_exists.1 name))
    · exact steady (.refl _)

/-! ## Ended sessions -/

/-- The server once a connection has lost its seat, if it had one. -/
def unseat (server : Server) (id : ConnectionId) : Server :=
  match server.seated? id with
  | none => server
  | some (identity, room) =>
    let server := server.tellRoom room (.dead identity.nickname) (some identity.player)
    match server.depart identity room with
    | .ok rest => rest
    | .error _ => server

/-- The server once a connection without a seat has lost its session. -/
def shut (server : Server) (id : ConnectionId) (reason : EndReason) : Server :=
  match server.sessions.close id with
  | (some session, sessions) =>
    { server with sessions }.close id (.ended session.nickname? reason)
  | (none, _) => server.close id .unknown

theorem terminate_eq (server : Server) (id : ConnectionId) (reason : EndReason) :
    server.terminate id reason = (server.unseat id).shut id reason := rfl

@[simp]
theorem lobby_shut (server : Server) (id : ConnectionId) (reason : EndReason) :
    (server.shut id reason).lobby = server.lobby := by
  unfold shut
  split <;> rfl

theorem steady_unseat (server : Server) (id : ConnectionId) : server.Steady (server.unseat id) := by
  unfold unseat
  split
  · exact .refl _
  · rw [tellRoom_eq_saying]
    have told (mail : List Delivery) : server.Steady (server.saying mail) := .of_eq rfl rfl
    dsimp only
    split
    · next left => exact (told _).trans (steady_depart left)
    · exact told _

theorem shut_eq (server : Server) (id : ConnectionId) (reason : EndReason) :
    ∃ cause, server.shut id reason =
      ({ server with sessions := (server.sessions.close id).2 } : Server).close id cause := by
  unfold shut
  split
  · next session sessions ended => exact ⟨_, by rw [ended]⟩
  · next ended =>
    have missing := (Sessions.get?_of_close ended).2 rfl
    have same : (server.sessions.close id).2 = server.sessions := by
      simp [Sessions.close, missing]
    exact ⟨.unknown, by rw [same]⟩

/-- Whoever has no seat and is ended is just closed. -/
theorem terminate_of_free (free : server.seated? id = none) (reason : EndReason) :
    ∃ cause, server.terminate id reason =
      ({ server with sessions := (server.sessions.close id).2 } : Server).close id cause := by
  have unseated : server.unseat id = server := by rw [unseat, free]
  rcases server.shut_eq id reason with ⟨cause, shut⟩
  exact ⟨cause, by rw [terminate_eq, unseated, shut]⟩

/-! ## Ended sessions -/

theorem sessions_unseat (server : Server) (id : ConnectionId) :
    (server.unseat id).sessions = server.sessions := by
  unfold unseat
  split
  · rfl
  · rw [tellRoom_eq_saying]
    dsimp only
    split
    · next left =>
      have kept := sessions_depart left
      exact kept
    · rfl

theorem sessions_terminate (server : Server) (id : ConnectionId) (reason : EndReason) :
    (server.terminate id reason).sessions = (server.sessions.close id).2 := by
  rcases (server.unseat id).shut_eq id reason with ⟨cause, shut⟩
  rw [terminate_eq, shut, ← sessions_unseat server id]
  rfl

end Server

end CardTable
