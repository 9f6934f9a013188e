import CardTable.Proofs.Server.Runs

/-!
# The protocol

What a client may say depends on where it stands and, in a game, on the game; nothing else ever
makes a request fail. In particular no request fails because the books of the server do not agree,
no full room fails to start, and no seat is left behind by a session that ends.
-/

namespace CardTable.Server

variable {server : Server} {config : ServerConfig} {deals : List Deal}

theorem Linked.exists_start_of_join (linked : server.Linked) {number : RoomId} {player : PlayerId}
    {next : Lobby} {joined : Room} (taken : server.lobby.join number player = .ok next)
    (found : next.room? number = some joined) (full : joined.IsFull) :
    ∃ started, next.start number = .ok started := by
  refine Server.exists_start_of_join ?_ taken found full
  intro room here
  have orderly := linked.orderly
  rw [orderly.alike here]
  exact ⟨orderly.filed here, orderly.sound here, orderly.two_le_capacity, orderly.capacity_le⟩

theorem Linked.exists_start_of_create (linked : server.Linked) {number : RoomId}
    {player : PlayerId} {created next : Lobby} {joined : Room}
    (opened : server.lobby.create = .ok (number, created))
    (taken : created.join number player = .ok next) (found : next.room? number = some joined)
    (full : joined.IsFull) : ∃ started, next.start number = .ok started := by
  rcases Lobby.create_eq_ok opened with ⟨_, _, _, rooms⟩
  refine Server.exists_start_of_join ?_ taken found full
  intro room here
  rw [rooms, if_pos rfl] at here
  cases here
  exact ⟨rfl, Room.sound_vacant _ _, linked.orderly.two_le_capacity, linked.orderly.capacity_le⟩

theorem Linked.exists_depart (linked : server.Linked) {id : ConnectionId} {identity : Identity}
    {number : RoomId} (seated : server.seated? id = some (identity, number)) (notice : Notice)
    (except : Option PlayerId) :
    ∃ rest, (server.tellRoom number notice except).depart identity number = .ok rest := by
  rcases seated?_eq_some seated with ⟨session, found, carries, inside⟩
  rw [tellRoom_eq_saying]
  rcases (linked.saying _).depart found carries inside with ⟨lobby, mail, left, _⟩
  exact ⟨_, left⟩

/-- In a server that can be reached, a frame of a live session is served exactly if it reads as a
request that its sender may make there, and every other frame is refused for what the sender did
wrong. A room whose last seat is taken, in a join or at once when it is opened, can be started, and
a session that ends can leave its room. -/
theorem protocol_exact (reachable : Reachable config deals server) :
    (∀ {id session}, server.sessions.get? id = some session → ∀ frame,
      ((∃ next, server.dispatch id frame = .ok next) ↔
        ∃ request, Request.ofWords frame = .ok request ∧ server.Permits session request) ∧
      ∀ failure, server.dispatch id frame = .error failure → failure.cause.IsRefusal) ∧
    (∀ number player next joined, server.lobby.join number player = .ok next →
      next.room? number = some joined → joined.IsFull →
      ∃ started, next.start number = .ok started) ∧
    (∀ number player created next joined, server.lobby.create = .ok (number, created) →
      created.join number player = .ok next → next.room? number = some joined → joined.IsFull →
      ∃ started, next.start number = .ok started) ∧
    ∀ id identity number, server.seated? id = some (identity, number) →
      ∃ rest, (server.tellRoom number (.dead identity.nickname) (some identity.player)).depart
        identity number = .ok rest := by
  have linked := reachable.linked
  refine ⟨?_, ?_, ?_, ?_⟩
  · intro id session found frame
    have served := linked.served_frame found frame
    refine ⟨served.exists_ok_iff, ?_⟩
    intro failure failed
    rw [failed] at served
    exact served.refusal.1
  · intro number player next joined taken found full
    exact linked.exists_start_of_join taken found full
  · intro number player created next joined opened taken found full
    exact linked.exists_start_of_create opened taken found full
  · intro id identity number seated
    exact linked.exists_depart seated _ _

/-- Whoever has just connected may take a name, and may not draw a card. -/
theorem protocol_exact_of_newcomer :
    Reachable .standard [] ((start ServerConfig.standard.validated []).run [.accept 1 0]) ∧
    (∃ next, ((start ServerConfig.standard.validated []).run [.accept 1 0]).dispatch 1
      ["NAME", "Ann"] = .ok next) ∧
    ¬∃ next, ((start ServerConfig.standard.validated []).run [.accept 1 0]).dispatch 1
      ["DRAW"] = .ok next := by
  have reachable : Reachable .standard []
      ((start ServerConfig.standard.validated []).run [.accept 1 0]) := Reachable.start.run _
  have live : ((start ServerConfig.standard.validated []).run [.accept 1 0]).sessions.get? 1 =
      some (.fresh 1 0) := by rfl
  refine ⟨reachable, ?_, ?_⟩
  · apply ((protocol_exact reachable).1 live ["NAME", "Ann"]).1.2
    exact ⟨.name "Ann", by rfl, rfl⟩
  · intro drawn
    rcases ((protocol_exact reachable).1 live ["DRAW"]).1.1 drawn with ⟨request, read, may⟩
    have draw : Request.ofWords ["DRAW"] = .ok .draw := by rfl
    rw [draw] at read
    cases read
    rcases may with ⟨number, _, _, _, _, location, _⟩
    cases location

end CardTable.Server
