import CardTable.Proofs.Server.Effects
import CardTable.Proofs.Server.Knowledge

/-!
# Rooms and connections are isolated

One server holds everybody, and what one connection asks for reaches others by way of players, seats
and names. Still it never reaches a stranger: every room but the own one stays as it is, and so does
every session that has no seat there. This also goes for a connection that fails or dies.
-/

namespace CardTable.Server

variable {server next : Server} {id other : ConnectionId} {config : ServerConfig}
  {deals : List Deal} {mail : List Delivery} {displaced : ConnectionId → Prop}

/-- The session of a connection, with everything queued in it that has been said to it so far. -/
def sessionOf? (server : Server) (id : ConnectionId) : Option Session :=
  server.handOver.sessions.get? id

/-- A change for one connection that leaves strangers alone. -/
structure Isolated (server next : Server) (id : ConnectionId) (displaced : ConnectionId → Prop) :
    Prop where
  /-- Every room but the own one is as before, with its game and its deck. -/
  rooms : ∀ number, ¬server.Touches next id number →
    next.lobby.room? number = server.lobby.room? number
  /-- So is the session of everybody who has no seat in the own room. -/
  strangers : ∀ other, other ≠ id → ¬displaced other →
    (∀ player number, server.Touches next id number →
      ¬server.Sits other player number ∧ ¬next.Sits other player number) →
    next.sessionOf? other = server.sessionOf? other
  /-- The others in the room only hear lines, and go with the room into its game. -/
  neighbours : ∀ other session, other ≠ id → ¬displaced other →
    server.sessionOf? other = some session →
    ∃ later lines, next.sessionOf? other = some later ∧ later.id = session.id ∧
      later.identity = session.identity ∧ later.incoming = session.incoming ∧
      later.presence = session.presence ∧
      later.outgoing = session.outgoing ++ List.flatMap Notice.bytes lines ∧
      (later.location = session.location ∨ ∃ number, server.Touches next id number ∧
        server.Opens next number ∧ session.location = .room number ∧
        later.location = .game number)
  /-- Only sleepers are displaced, and they are gone then. -/
  displaced : ∀ other, displaced other →
    (∃ session, server.sessionOf? other = some session ∧ session.isAwake = false) ∧
      next.sessionOf? other = none
  newcomers : ∀ other, other ≠ id → server.sessionOf? other = none → next.sessionOf? other = none

theorem sessionOf?_eq (server : Server) (id : ConnectionId) :
    server.sessionOf? id = (server.sessions.get? id).map fun session =>
      { session with outgoing := session.outgoing ++ (server.lines id).flatMap Notice.bytes } :=
  get?_handOver server id

theorem sessionOf?_eq_none_iff : server.sessionOf? id = none ↔ server.sessions.get? id = none := by
  rw [sessionOf?_eq, Option.map_eq_none_iff]

/-- Whoever goes with a room into its game has sat there before. -/
theorem Promotes.exists_sits {number : RoomId} (promotes : server.Promotes next other number)
    (linked : server.Linked) : ∃ player, server.Sits other player number := by
  rcases promotes with ⟨session, live, location, _⟩
  have inside : session.location.room? = some number := congrArg Location.room? location
  rcases linked.exists_seat live inside with ⟨identity, _, carries, _⟩
  exact ⟨identity.player, linked.sits live carries inside⟩

namespace Effect

variable (effect : server.Effect next id displaced mail)

include effect

/-- What becomes of a session that neither acts nor is displaced. -/
theorem exists_later {session : Session} (apart : other ≠ id) (stays : ¬displaced other)
    (live : server.sessionOf? other = some session) :
    ∃ location, next.sessionOf? other = some { session with
        location
        outgoing := session.outgoing ++
          ((wordsTo mail other).map Word.notice).flatMap Notice.bytes } ∧
      (location = session.location ∨ ∃ number, server.Touches next id number ∧
        server.Opens next number ∧ session.location = .room number ∧ location = .game number) := by
  have lines := lines_of_said effect.said other
  rw [sessionOf?_eq] at live ⊢
  rcases Option.map_eq_some_iff.1 live with ⟨before, found, rfl⟩
  rcases effect.others other apart stays with same | ⟨number, touches, opens, promotes⟩
  · refine ⟨before.location, ?_, .inl rfl⟩
    simp [same, found, lines]
  · rcases promotes with ⟨before', found', location, after⟩
    cases Option.some.inj (found.symm.trans found')
    refine ⟨.game number, ?_, .inr ⟨number, touches, opens, location, rfl⟩⟩
    simp [after, lines]

theorem isolated (linked : server.Linked)
    (asleep : ∀ other, displaced other →
      ∃ session, server.sessionOf? other = some session ∧ session.isAwake = false) :
    server.Isolated next id displaced := by
  refine ⟨effect.rooms, ?_, ?_, ?_, ?_⟩
  · intro other apart stays outside
    have silent := effect.heard other apart fun player number touches =>
      (outside player number touches).1
    have lines := lines_of_said effect.said other
    rw [silent, List.map_nil, List.append_nil] at lines
    rw [sessionOf?_eq, sessionOf?_eq, lines]
    rcases effect.others other apart stays with same | ⟨number, touches, _, promotes⟩
    · rw [same]
    · rcases promotes.exists_sits linked with ⟨player, sits⟩
      exact ((outside player number touches).1 sits).elim
  · intro other session apart stays live
    rcases effect.exists_later apart stays live with ⟨location, after, moved⟩
    exact ⟨_, _, after, rfl, rfl, rfl, rfl, rfl, moved⟩
  · intro other gone
    exact ⟨asleep other gone, sessionOf?_eq_none_iff.2 (effect.displaced other gone)⟩
  · intro other _ missing
    rw [sessionOf?_eq_none_iff] at missing ⊢
    by_contra live
    rcases Option.ne_none_iff_exists'.1 live with ⟨later, found⟩
    rcases effect.keeps other later found with ⟨earlier, found', _⟩
    cases missing.symm.trans found'

end Effect

/-! ## Frames -/

/-- Whose session goes when a frame is served. -/
def Evicts (server : Server) (id : ConnectionId) (frame : Wire.Frame) (other : ConnectionId) :
    Prop :=
  ∃ request, Request.ofWords frame = .ok request ∧ server.Displaces id request other

theorem Displaces.asleep {request : Request} (displaces : server.Displaces id request other) :
    ∃ session, server.sessionOf? other = some session ∧ session.isAwake = false := by
  rcases displaces with ⟨_, _, holder, _, _, _, live, _, asleep⟩
  refine ⟨_, (sessionOf?_eq server other).trans (congrArg _ live), asleep⟩

/-- Nobody's session goes when a frame is refused. -/
theorem not_evicts_of_error (linked : server.Linked) {frame : Wire.Frame} {failure : Failure}
    (failed : server.dispatch id frame = .error failure) : ¬server.Evicts id frame other := by
  rintro ⟨request, read, nickname, session, holder, rfl, live, unnamed, _⟩
  have nowhere := (linked.location_eq_unnamed_iff live).2 unnamed
  rcases (linked.served_name live nickname).exists_ok_iff.2 nowhere with ⟨next, served⟩
  have dispatched : server.dispatch id frame = server.serveName id nickname := by
    simp [dispatch, live, read, serve]
  cases failed.symm.trans (dispatched.trans served)

/-- A frame that one connection sends, be it served or the end of its session, leaves strangers
alone. -/
theorem isolated_serveFrames (linked : server.Linked) (id : ConnectionId) (frame : Wire.Frame) :
    server.Isolated (server.serveFrames id [frame]) id (server.Evicts id frame) := by
  cases served : server.dispatch id frame with
  | ok next =>
    have serves : server.serveFrames id [frame] = next := by simp [serveFrames, served]
    rw [serves]
    simp only [dispatch] at served
    split at served
    · cases served
    · next live =>
      split at served
      · next request read =>
        rcases Option.ne_none_iff_exists'.1 (by simpa using live) with ⟨session, found⟩
        rcases effect_of_request linked found served with ⟨mail, effect, _⟩
        have same : server.Evicts id frame = server.Displaces id request := by
          funext other
          simp [Evicts, read]
        rw [same]
        exact effect.isolated linked fun other => Displaces.asleep
      · cases served
  | error failure =>
    have ends : server.serveFrames id [frame] = server.terminate id (.error failure.cause) := by
      simp only [serveFrames, served, linked.server_of_failure served]
    rcases (effect_of_terminate linked id (.error failure.cause)).1 with ⟨mail, effect⟩
    rw [ends]
    refine (effect.of_none fun _ => not_evicts_of_error linked served).isolated linked ?_
    rintro other ⟨request, _, displaces⟩
    exact displaces.asleep

/-- In a server that can be reached, whatever frame a connection sends, and be it the end of its
session, leaves every room alone but the one in which the connection sits before or after, and every
session that has no seat there, unless it belongs to a sleeper whose nickname is taken over. The
others in that room only hear lines and go with the room into its game. When a session is ended for
another reason, such as too long a silence, the same holds, and nobody is moved. -/
theorem strangers_left_alone (reachable : Reachable config deals server) (id : ConnectionId) :
    (∀ frame, server.Isolated (server.serveFrames id [frame]) id (server.Evicts id frame)) ∧
    ∀ reason, server.Isolated (server.terminate id reason) id (fun _ => False) ∧
      ∀ other, other ≠ id → ((server.terminate id reason).sessionOf? other).map Session.location =
        (server.sessionOf? other).map Session.location := by
  have linked := reachable.linked
  refine ⟨isolated_serveFrames linked id, fun reason => ?_⟩
  rcases effect_of_terminate linked id reason with ⟨⟨mail, effect⟩, others⟩
  refine ⟨effect.isolated linked fun _ => False.elim, fun other apart => ?_⟩
  rw [sessionOf?_eq, sessionOf?_eq, others other apart, Option.map_map, Option.map_map]
  rfl

/-- Cyd waits in a room of her own while Bob takes the last seat in Ann's room, and their game
starts; nothing happens to Cyd or to her room. -/
theorem strangers_left_alone_of_join :
    let send (id : ConnectionId) (text : String) (now : Nanos) : Call :=
      .receive id [.bytes 0x50 (Wire.bytesOf text)] now
    let server := (start ServerConfig.standard.validated []).run (duel.take 3 ++
      [.accept 3 2, send 3 "RSI NAME Cyd |PRSI CREATE_ROOM |" 3, send 2 "RSI NAME Bob |" 4])
    let next := server.serveFrames 2 [["JOIN_ROOM", "0"]]
    Reachable .standard [] server ∧ server.Opens next 0 ∧
      next.lobby.room? 1 = server.lobby.room? 1 ∧ next.sessionOf? 3 = server.sessionOf? 3 := by
  intro send server next
  have reachable : Reachable .standard [] server := Reachable.start.run _
  have isolated := (strangers_left_alone reachable 2).1 ["JOIN_ROOM", "0"]
  have linked := reachable.linked
  have linked' : next.Linked := linked.serveFrames 2 _
  have before : server.seated? 2 = none := by decide +kernel
  have after : next.seated? 2 = some ({ nickname := "Bob", player := 3 }, 0) := by decide +kernel
  have cyd : server.seated? 3 = some ({ nickname := "Cyd", player := 2 }, 1) := by decide +kernel
  have cyd' : next.seated? 3 = some ({ nickname := "Cyd", player := 2 }, 1) := by decide +kernel
  have only : ∀ number, server.Touches next 2 number → number = 0 := by
    rintro number ⟨player, sits | sits⟩
    · exact (linked.not_sits_of_seated? before player number sits).elim
    · exact (linked'.sits_unique (linked'.sits_of_seated? after).1 sits).2
  refine ⟨reachable, by decide +kernel, isolated.rooms 1 fun touches => ?_,
    isolated.strangers 3 (by decide) ?_ ?_⟩
  · cases only 1 touches
  · rintro ⟨request, read, nickname, _, _, same, _⟩
    have joins : Request.ofWords ["JOIN_ROOM", "0"] = .ok (.joinRoom 0) := by rfl
    cases same ▸ joins.symm.trans read
  · intro player number touches
    have here := only number touches
    refine ⟨fun sits => ?_, fun sits => ?_⟩
    · have there := (linked.sits_unique (linked.sits_of_seated? cyd).1 sits).2
      cases here.symm.trans there
    · have there := (linked'.sits_unique (linked'.sits_of_seated? cyd').1 sits).2
      cases here.symm.trans there

end CardTable.Server
