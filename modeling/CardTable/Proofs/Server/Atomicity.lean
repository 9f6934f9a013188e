import CardTable.Proofs.Server.Runs

/-!
# Requests that fail

Requests are served in stages: a room is opened before it is joined, and joined before its game is
dealt. When a stage fails, the server keeps what the stages before it have done. In a server that
can be reached no request fails behind a stage that has done something, so one that fails has done
nothing at all, and all that is seen of its frame is that the session ends.
-/

namespace CardTable.Server

variable {server middle : Server} {id : ConnectionId} {config : ServerConfig} {deals : List Deal}

/-- The server after some frames, all of which have to be served. -/
def serveAll (server : Server) (id : ConnectionId) (frames : List Wire.Frame) : Outcome :=
  frames.foldlM (fun server frame => server.dispatch id frame) server

/-- The server when the frames that a session has received are about to be served. -/
def beforeFrames (server : Server) (taken : Session) (traffic : Traffic) : Server :=
  let server := { server with said := [], sessions := server.sessions.put taken }
  if traffic.woke then server.tellWake taken.id else server

theorem serveFrames_of_serveAll {before : List Wire.Frame}
    (served : server.serveAll id before = .ok middle) (later : List Wire.Frame) :
    server.serveFrames id (before ++ later) = middle.serveFrames id later := by
  induction before generalizing server with
  | nil =>
    cases served
    rfl
  | cons frame before ih =>
    rw [serveAll, List.foldlM_cons] at served
    rw [List.cons_append, serveFrames]
    cases first : server.dispatch id frame with
    | ok next =>
      rw [first] at served
      exact ih served
    | error failure =>
      rw [first] at served
      cases served

namespace Reachable

theorem serveAll (reachable : Reachable config deals server) {frames : List Wire.Frame}
    (served : server.serveAll id frames = .ok middle) : Reachable config deals middle := by
  induction frames generalizing server with
  | nil =>
    cases served
    exact reachable
  | cons frame frames ih =>
    rw [Server.serveAll, List.foldlM_cons] at served
    cases first : server.dispatch id frame with
    | ok next =>
      rw [first] at served
      exact ih (reachable.step (.serve first)) served
    | error failure =>
      rw [first] at served
      cases served

/-- The frame that fails is not seen: the session ends in the server that the frames before it have
left. -/
theorem serveFrames_of_failure (reachable : Reachable config deals server)
    {before : List Wire.Frame} (served : server.serveAll id before = .ok middle)
    {frame : Wire.Frame} {failure : Failure} (failed : middle.dispatch id frame = .error failure)
    (later : List Wire.Frame) :
    server.serveFrames id (before ++ frame :: later) =
      middle.terminate id (.error failure.cause) := by
  have unchanged := (reachable.serveAll served).linked.server_of_failure failed
  rw [serveFrames_of_serveAll served, Server.serveFrames, failed]
  simp only [unchanged]

theorem beforeFrames (reachable : Reachable config deals server) {session : Session}
    (found : server.sessions.get? id = some session) {arrivals : List Arrival} {now : Nanos}
    {traffic : Traffic} {filled : Session}
    (received : session.receive server.sessions.config arrivals now = (.ok traffic, filled)) :
    Reachable config deals (server.beforeFrames filled.takeFrames.2 traffic) := by
  have begun : Reachable config deals { server with said := [] } := reachable.step .begin
  have found' : ({ server with said := [] } : Server).sessions.get? id = some session := found
  have read := begun.step (.read found' arrivals now)
  rw [received] at read
  rw [Server.beforeFrames]
  split
  · exact read.step (.wake _)
  · exact read

end Reachable

/-- What a call that reads from a connection comes to when the frames can be cut. -/
theorem receive_eq (linked : server.Linked) {session : Session}
    (found : server.sessions.get? id = some session) {arrivals : List Arrival} {now : Nanos}
    {traffic : Traffic} {filled : Session} {frames : List Wire.Frame}
    (received : session.receive server.sessions.config arrivals now = (.ok traffic, filled))
    (cut : filled.takeFrames.1 = .ok frames) :
    server.receive id arrivals now =
      ((server.beforeFrames filled.takeFrames.2 traffic).serveFrames id frames).handOver := by
  have standing := Session.standing_receive session server.sessions.config arrivals now
  rw [received] at standing
  have filed : filled.takeFrames.2.id = id :=
    (Session.standing_eq_iff.1 standing).1.trans (linked.indexed.filed found)
  simp only [receive, during, receiveCore, found, received, cut, beforeFrames, filed]

/-- A request that fails in a server that can be reached leaves everything as it was. So among the
frames that a session has sent, all that is seen of the one that fails is that the session ends,
right after the frames before it; this also goes for the whole call in which they have come. -/
theorem requests_atomic (reachable : Reachable config deals server) {session : Session}
    (found : server.sessions.get? id = some session) :
    (∀ frame failure, server.dispatch id frame = .error failure → failure.server = server) ∧
    (∀ before frame later middle failure, server.serveAll id before = .ok middle →
      middle.dispatch id frame = .error failure →
      failure.server = middle ∧ server.serveFrames id (before ++ frame :: later) =
        middle.terminate id (.error failure.cause)) ∧
    ∀ arrivals now traffic filled before frame later middle failure,
      session.receive server.sessions.config arrivals now = (.ok traffic, filled) →
      filled.takeFrames.1 = .ok (before ++ frame :: later) →
      (server.beforeFrames filled.takeFrames.2 traffic).serveAll id before = .ok middle →
      middle.dispatch id frame = .error failure →
      server.receive id arrivals now = (middle.terminate id (.error failure.cause)).handOver := by
  refine ⟨?_, ?_, ?_⟩
  · intro frame failure failed
    exact reachable.linked.server_of_failure failed
  · intro before frame later middle failure served failed
    exact ⟨(reachable.serveAll served).linked.server_of_failure failed,
      reachable.serveFrames_of_failure served failed later⟩
  · intro arrivals now traffic filled before frame later middle failure received cut served failed
    rw [receive_eq reachable.linked found received cut]
    rw [(reachable.beforeFrames found received).serveFrames_of_failure served failed]

/-- Whoever takes a name and then draws a card outside a game loses the session, and nothing else
comes of the draw; a request behind it is not looked at. -/
theorem requests_atomic_of_draw :
    ∃ named, ((start ServerConfig.standard.validated []).run [.accept 1 0]).serveAll 1
        [["NAME", "Ann"]] = .ok named ∧
      ((start ServerConfig.standard.validated []).run [.accept 1 0]).serveFrames 1
        [["NAME", "Ann"], ["DRAW"], ["CREATE_ROOM"]] =
          named.terminate 1 (.error (.violation (.outsideGame .draw))) := by
  have reachable : Reachable .standard []
      ((start ServerConfig.standard.validated []).run [.accept 1 0]) := Reachable.start.run _
  have live : ((start ServerConfig.standard.validated []).run [.accept 1 0]).sessions.get? 1 =
      some (.fresh 1 0) := by rfl
  refine ⟨_, rfl, ?_⟩
  exact ((requests_atomic reachable live).2.1 [["NAME", "Ann"]] ["DRAW"] [["CREATE_ROOM"]] _ _ rfl
    rfl).2

end CardTable.Server
