import CardTable.Proofs.Server.Requests
import CardTable.Proofs.Server.Validation

/-!
# Runs of a server

A server that has been started is called again and again. Every call is a series of small steps, and
frames are served between two of them; a server is reachable if such steps lead to it, also when no
call ends there. Each step keeps a server linked, so every reachable server is.
-/

namespace CardTable

namespace Server

variable {server next : Server} {id : ConnectionId} {session : Session}

/-! ## The end of a session -/

theorem seated?_eq_some {identity : Identity} {number : RoomId}
    (seated : server.seated? id = some (identity, number)) :
    ∃ session, server.sessions.get? id = some session ∧ session.identity = some identity ∧
      session.location.room? = some number := by
  cases found : server.sessions.get? id with
  | none => simp [seated?, found] at seated
  | some session =>
    cases inside : session.location.room? with
    | none => simp [seated?, found, inside] at seated
    | some room =>
      cases carries : session.identity with
      | none => simp [seated?, found, inside, carries] at seated
      | some owner =>
        simp only [seated?, found, inside, carries, Option.bind_eq_bind, Option.bind_some,
          pure, Option.some.injEq, Prod.mk.injEq] at seated
        rcases seated with ⟨rfl, rfl⟩
        exact ⟨session, rfl, carries, inside⟩

theorem seated?_eq_none (missing : server.seated? id = none)
    (found : server.sessions.get? id = some session) {player : PlayerId}
    (carries : session.player? = some player) : session.location.room? = none := by
  rcases Option.map_eq_some_iff.1 carries with ⟨identity, known, _⟩
  cases inside : session.location.room? with
  | none => rfl
  | some room => simp [seated?, found, inside, known] at missing

namespace Linked

/-- A frame that fails leaves the server as it was. -/
theorem server_of_failure (linked : server.Linked) {frame : Wire.Frame} {failure : Failure}
    (failed : server.dispatch id frame = .error failure) : failure.server = server := by
  cases found : server.sessions.get? id with
  | none =>
    simp only [dispatch, found, fail] at failed
    cases failed
    rfl
  | some session =>
    have served := linked.served_frame found frame
    rw [failed] at served
    exact served.refusal.2

/-- A session that has gone back to the lobby may end; it makes no difference if it ends at once. -/
theorem close_moved (linked : (server.move id .lobby).Linked)
    (present : server.sessions.get? id = some session) :
    ({ server with sessions := (server.sessions.close id).2 } : Server).Linked := by
  let moved : Sessions :=
    server.sessions.modify id fun session => { session with location := .lobby }
  have same : (moved.close id).2 = (server.sessions.close id).2 :=
    Sessions.close_modify present fun _ => rfl
  have closed : ({ server with sessions := (moved.close id).2 } : Server).Linked := by
    apply linked.close
    intro session player found carries
    have lobby := found
    change moved.get? id = some session at lobby
    rw [Sessions.get?_modify, if_pos rfl] at lobby
    rcases Option.map_eq_some_iff.1 lobby with ⟨earlier, _, rfl⟩
    exact linked.not_seats found rfl carries
  rwa [same] at closed

theorem terminate (linked : server.Linked) (id : ConnectionId) (reason : EndReason) :
    (server.terminate id reason).Linked := by
  cases seat : server.seated? id with
  | none =>
    have closed : ({ server with sessions := (server.sessions.close id).2 } : Server).Linked := by
      apply linked.close
      intro session player found carries
      exact linked.not_seats found (seated?_eq_none seat found carries) carries
    simp only [Server.terminate, seat]
    split
    · next session rest ended =>
      rw [ended] at closed
      exact closed.closing _ _
    · exact linked.closing _ _
  | some seat' =>
    rcases seat' with ⟨identity, number⟩
    rcases seated?_eq_some seat with ⟨session, found, carries, inside⟩
    simp only [Server.terminate, seat, tellRoom_eq_saying]
    generalize Server.roomMail _ _ _ _ = mail
    rcases (linked.saying mail).depart found carries inside with ⟨lobby, later, left, moved⟩
    have closed := (close_moved moved found).saying later
    rw [left]
    split
    · next session rest ended =>
      change server.sessions.close id = (some session, rest) at ended
      simp only [sessions_saying, ended] at closed
      exact closed.closing _ _
    · next ended =>
      change server.sessions.close id = (none, _) at ended
      simp [Sessions.close, found] at ended

end Linked

/-! ## Steps -/

/-- One of the small steps that calls are made of. -/
inductive Step (server : Server) : Server → Prop
  /-- A call begins. -/
  | begin : Step server { server with said := [] }
  /-- What was said in a call is handed over at its end. -/
  | finish : Step server server.handOver
  | accept (id : ConnectionId) (now : Nanos) : Step server (server.acceptCore id now)
  /-- A session takes in what its connection has. -/
  | fill {id : ConnectionId} {session : Session} (found : server.sessions.get? id = some session)
      (arrivals : List Arrival) (now : Nanos) :
      Step server { server with
        sessions := server.sessions.put (session.receive server.sessions.config arrivals now).2 }
  /-- A session takes in what its connection has, and the frames that are there whole are taken out
  of it. -/
  | read {id : ConnectionId} {session : Session} (found : server.sessions.get? id = some session)
      (arrivals : List Arrival) (now : Nanos) :
      Step server { server with
        sessions := server.sessions.put
          (session.receive server.sessions.config arrivals now).2.takeFrames.2 }
  | wake (id : ConnectionId) : Step server (server.tellWake id)
  /-- A frame is served. -/
  | serve {id : ConnectionId} {frame : Wire.Frame} {next : Server}
      (served : server.dispatch id frame = .ok next) : Step server next
  | terminate (id : ConnectionId) (reason : EndReason) : Step server (server.terminate id reason)
  /-- A connection takes what a session has to send. -/
  | drain {id : ConnectionId} {session : Session} (found : server.sessions.get? id = some session)
      (uptake : Uptake) :
      Step server { server with sessions := server.sessions.put (session.transmit uptake).session }
  /-- Every clock is looked at. -/
  | beat (now : Nanos) : Step server { server with sessions := (server.sessions.beat now).sessions }
  | ping (id : ConnectionId) : Step server (server.tell id .ping)
  | react (event : ConnectionId × LivenessEvent) : Step server (server.react event)
  /-- The connections to be closed are collected. -/
  | collect : Step server server.takeClosings.2

/-- A server that steps lead to from the start, with a validated configuration. -/
inductive Reachable (config : ServerConfig) (deals : List Deal) : Server → Prop
  | start : Reachable config deals (start config.validated deals)
  | step {server next : Server} (reachable : Reachable config deals server)
      (step : server.Step next) : Reachable config deals next

theorem linked_start (config : ServerConfig) (deals : List Deal) :
    (start config.validated deals).Linked := by
  have usable := config.usable_validated
  refine ⟨.vacant _, ⟨usable.two_le_capacity, usable.capacity_le, ?_, ?_, ?_, ?_⟩, ?_, ?_⟩
  · intro number room found
    cases found
  · intro number room found
    cases found
  · intro number room found
    cases found
  · intro number room found
    cases found
  · intro id session found
    cases found
  · rintro number player ⟨room, found, _⟩
    cases found

theorem Linked.react (linked : server.Linked) (event : ConnectionId × LivenessEvent) :
    (server.react event).Linked := by
  rcases event with ⟨id, _ | _⟩
  · simp only [Server.react, tellRoom_eq_saying]
    split
    · exact linked.saying _
    · exact linked
  · exact linked.terminate id .silence

theorem Step.linked (step : server.Step next) (linked : server.Linked) : next.Linked := by
  cases step with
  | begin => exact linked.of_alike (.refl _) rfl rfl
  | finish => exact linked.of_alike (Sessions.alike_deliver _ _) rfl rfl
  | accept id now =>
    rw [acceptCore]
    split
    · exact linked.connect id now
    · exact linked.closing id .refused
  | @fill id session found arrivals now =>
    have standing := Session.standing_receive session server.sessions.config arrivals now
    exact linked.of_alike (Sessions.alike_put found (linked.indexed.filed found) standing) rfl rfl
  | @read id session found arrivals now =>
    have standing := Session.standing_receive session server.sessions.config arrivals now
    rw [← Session.standing_takeFrames] at standing
    exact linked.of_alike (Sessions.alike_put found (linked.indexed.filed found) standing) rfl rfl
  | wake id =>
    rw [tellWake_eq_saying]
    exact linked.saying _
  | @serve id frame _ served =>
    cases found : server.sessions.get? id with
    | none => simp [dispatch, found, fail] at served
    | some session =>
      have served' := linked.served_frame found frame
      rw [served] at served'
      exact served'.linked
  | terminate id reason => exact linked.terminate id reason
  | @drain id session found uptake =>
    have standing := Session.standing_transmit session uptake
    exact linked.of_alike (Sessions.alike_put found (linked.indexed.filed found) standing) rfl rfl
  | beat now => exact linked.of_alike (Sessions.alike_beat _ now) rfl rfl
  | ping id => exact linked.tell id .ping
  | react event => exact linked.react event
  | collect => exact linked.of_alike (.refl _) rfl rfl

theorem Reachable.linked {config : ServerConfig} {deals : List Deal}
    (reachable : Reachable config deals server) : server.Linked := by
  induction reachable with
  | start => exact linked_start config deals
  | step _ step linked => exact step.linked linked

/-! ## Calls -/

/-- A call from outside, with whatever the connection does. -/
inductive Call
  | accept (id : ConnectionId) (now : Nanos)
  | receive (id : ConnectionId) (arrivals : List Arrival) (now : Nanos)
  | transmit (id : ConnectionId) (uptake : Uptake)
  | sweep (now : Nanos)
  | takeClosings

/-- The server after a call. -/
def afterCall (server : Server) : Call → Server
  | .accept id now => server.accept id now
  | .receive id arrivals now => server.receive id arrivals now
  | .transmit id uptake => (server.transmit id uptake).2
  | .sweep now => server.sweep now
  | .takeClosings => server.takeClosings.2

/-- The server after several calls. -/
def run (server : Server) (calls : List Call) : Server :=
  calls.foldl afterCall server

/-- Whatever every step keeps of a linked server. -/
structure Invariant (invariant : Server → Prop) : Prop where
  linked : ∀ {server}, invariant server → server.Linked
  step : ∀ {server next}, invariant server → server.Step next → invariant next

namespace Invariant

variable {invariant : Server → Prop} (kept : Invariant invariant) (holds : invariant server)

include kept holds

theorem serveFrames (id : ConnectionId) (frames : List Wire.Frame) :
    invariant (server.serveFrames id frames) := by
  induction frames generalizing server with
  | nil => exact holds
  | cons frame later ih =>
    rw [Server.serveFrames]
    cases served : server.dispatch id frame with
    | ok next => exact ih (kept.step holds (.serve served))
    | error failure =>
      simp only [(kept.linked holds).server_of_failure served]
      exact kept.step holds (.terminate id _)

theorem receiveCore (id : ConnectionId) (arrivals : List Arrival) (now : Nanos) :
    invariant (server.receiveCore id arrivals now) := by
  rw [Server.receiveCore]
  cases found : server.sessions.get? id with
  | none => exact holds
  | some session =>
    have filled := kept.step holds (.fill found arrivals now)
    have taken := kept.step holds (.read found arrivals now)
    dsimp only
    rcases received : session.receive server.sessions.config arrivals now with ⟨_ | traffic, rest⟩
    · rw [received] at filled
      exact kept.step filled (.terminate id _)
    · rw [received] at taken
      have woken : invariant (if traffic.woke = true then
          Server.tellWake { server with sessions := server.sessions.put rest.takeFrames.2 } id
          else { server with sessions := server.sessions.put rest.takeFrames.2 }) := by
        split
        · exact kept.step taken (.wake id)
        · exact taken
      dsimp only
      split
      · exact kept.step woken (.terminate id _)
      · exact kept.serveFrames woken id _

theorem transmitCore (id : ConnectionId) (uptake : Uptake) :
    invariant (server.transmitCore id uptake).2 := by
  rw [Server.transmitCore]
  cases found : server.sessions.get? id with
  | none => exact holds
  | some session =>
    have drained := kept.step holds (.drain found uptake)
    dsimp only
    split
    · exact drained
    · exact kept.step drained (.terminate id _)

theorem sweepCore (now : Nanos) : invariant (server.sweepCore now) := by
  rw [Server.sweepCore]
  refine List.foldlRecOn _ _ (List.foldlRecOn _ _ (kept.step holds (.beat now)) ?_) ?_
  · intro _ pinged id _
    exact kept.step pinged (.ping id)
  · intro _ reacted event _
    exact kept.step reacted (.react event)

theorem afterCall (call : Call) : invariant (server.afterCall call) := by
  have begun := kept.step holds .begin
  cases call with
  | accept id now => exact kept.step (kept.step begun (.accept id now)) .finish
  | receive id arrivals now => exact kept.step (kept.receiveCore begun id arrivals now) .finish
  | transmit id uptake => exact kept.step (kept.transmitCore begun id uptake) .finish
  | sweep now => exact kept.step (kept.sweepCore begun now) .finish
  | takeClosings => exact kept.step holds .collect

theorem run (calls : List Call) : invariant (server.run calls) := by
  induction calls generalizing server with
  | nil => exact holds
  | cons call calls ih => exact ih (kept.afterCall holds call)

end Invariant

theorem invariant_linked : Invariant Linked :=
  ⟨id, fun linked step => step.linked linked⟩

theorem Linked.serveFrames (linked : server.Linked) (id : ConnectionId) (frames : List Wire.Frame) :
    (server.serveFrames id frames).Linked :=
  invariant_linked.serveFrames linked id frames

theorem Reachable.run {config : ServerConfig} {deals : List Deal}
    (reachable : Reachable config deals server) (calls : List Call) :
    Reachable config deals (server.run calls) := by
  have kept : Invariant (Reachable config deals) := ⟨Reachable.linked, Reachable.step⟩
  exact kept.run reachable calls

end Server

end CardTable
