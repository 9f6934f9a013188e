import CardTable.Proofs.Server.Atomicity
import CardTable.Proofs.Server.Knowledge
import CardTable.Proofs.Server.VeiledRequests
import CardTable.Proofs.Session.Chunks

/-!
# Hidden hands stay hidden

Two servers may differ in the hand that one player holds in a game. As long as nothing is served for
the connection that carries the player, and the player keeps the seat, nobody can tell the two apart:
whatever is called, they go on to differ in that hand and in nothing else.
-/

namespace CardTable

/-- The veil over a hand and nothing else. -/
def HiddenHand.veil (hidden : HiddenHand) : Veil where
  hidden := some hidden

namespace Server

variable {server other : Server} {hidden : HiddenHand} {id : ConnectionId} {number : RoomId}
  {player : PlayerId}

/-! ## Servers that differ in a hand -/

/-- The server once the hidden hand is in the place of what its player holds. -/
def withHand (server : Server) (hidden : HiddenHand) : Server :=
  { server with
    lobby := { server.lobby with
      rooms := server.lobby.rooms.modify hidden.room fun room =>
        { room with stage := room.stage.mapGame (·.withHand hidden.player hidden.hand) } } }

/-- A player sits in a room, has been dealt in there, and holds cards. -/
def HoldsIn (server : Server) (number : RoomId) (player : PlayerId) : Prop :=
  ∃ room ∈ server.lobby.room? number, player ∈ room.players ∧
    ∃ game ∈ room.game?, game.Holds player

instance (server : Server) (number : RoomId) (player : PlayerId) :
    Decidable (server.HoldsIn number player) :=
  inferInstanceAs (Decidable (∃ room ∈ server.lobby.room? number, _))

/-- Two servers that differ in nothing but the hand of a player, who holds cards in both. -/
structure Hides (hidden : HiddenHand) (server other : Server) : Prop where
  holds : server.HoldsIn hidden.room hidden.player
  same : other = server.withHand hidden

theorem covers_veil_iff :
    hidden.veil.Covers server.lobby ↔ server.HoldsIn hidden.room hidden.player := by
  constructor
  · intro covers
    exact covers hidden rfl
  · rintro holds _ ⟨⟩
    exact holds

theorem server_veil (linked : server.Linked) :
    hidden.veil.server server = server.withHand hidden := by
  have live : server.sessions.live.mapEntries hidden.veil.session = server.sessions.live := by
    apply Directory.ext_get?
    intro asked
    rw [Directory.get?_mapEntries]
    cases server.sessions.live.get? asked <;> rfl
  have rooms : server.lobby.rooms.mapEntries (fun _ => hidden.veil.room) =
      server.lobby.rooms.modify hidden.room fun room =>
        { room with stage := room.stage.mapGame (·.withHand hidden.player hidden.hand) } := by
    apply Directory.ext_get?
    intro asked
    rw [Directory.get?_mapEntries, Directory.get?_modify]
    cases found : server.lobby.rooms.get? asked with
    | none => simp
    | some room =>
      have filed : room.id = asked := linked.orderly.filed found
      subst filed
      have stage : room.stage.mapGame (hidden.veil.game room.id) = if room.id = hidden.room then
          room.stage.mapGame (·.withHand hidden.player hidden.hand) else room.stage := by
        rcases room with ⟨_, _, _, waiting | game | game⟩ <;> simp only [Stage.mapGame] <;>
          split <;> simp_all [Veil.game, HiddenHand.veil]
      simp only [Option.map_some, Veil.room, stage]
      split <;> rfl
  have said : server.said ++ hidden.veil.earlier = server.said := List.append_nil _
  simp only [Veil.server, Veil.sessions, Veil.lobby, live, rooms, said]
  rfl

/-! ## Whose seat is lost -/

/-- When a session ends nobody gets a seat, and its player has none any more. -/
theorem seats_of_terminate (linked : server.Linked) {reason : EndReason}
    (seats : (server.terminate id reason).lobby.Seats number player) :
    server.lobby.Seats number player ∧ server.player? id ≠ some player := by
  rw [terminate_eq, lobby_shut, unseat] at seats
  cases seat : server.seated? id with
  | none =>
    rw [seat] at seats
    refine ⟨seats, ?_⟩
    intro carries
    rcases Option.bind_eq_some_iff.1 carries with ⟨session, found, carries⟩
    exact linked.not_seats found (seated?_eq_none seat found carries) carries number seats
  | some seated =>
    rcases seated with ⟨identity, left⟩
    rcases linked.sits_of_seated? seat with ⟨sits, _⟩
    simp only [seat, tellRoom_eq_saying] at seats
    generalize server.roomMail _ _ _ = mail at seats
    have linked' : (server.saying mail).Linked := linked.saying mail
    have sat : (server.saying mail).lobby.Seats left identity.player := sits.seats
    rcases depart_eq_ok linked'.orderly sat with ⟨lobby, later, departed, without⟩
    simp only [departed] at seats
    rcases seats_of_without linked' sat without seats with ⟨before, other⟩
    refine ⟨before, ?_⟩
    rw [player?_of_seated? seat, ne_eq, Option.some_inj]
    exact Ne.symm other

theorem seats_of_reactions (linked : server.Linked) {events : List (ConnectionId × LivenessEvent)}
    (seats : (events.foldl react server).lobby.Seats number player) :
    server.lobby.Seats number player := by
  induction events generalizing server with
  | nil => exact seats
  | cons event events ih =>
    have before := ih (linked.react event) seats
    rcases event with ⟨id, _ | _⟩
    · simp only [react, tellRoom_eq_saying] at before
      split at before <;> exact before
    · exact (seats_of_terminate linked before).1

namespace Hides

/-! ## Parts of calls -/

theorem of_veil {veiled : Server} (linked : server.Linked)
    (same : veiled = hidden.veil.server server) (covers : hidden.veil.Covers server.lobby) :
    Hides hidden server veiled :=
  ⟨covers_veil_iff.1 covers, same.trans (server_veil linked)⟩

/-- The other server does not have to be looked at. -/
theorem veil (hides : Hides hidden server other) (linked : server.Linked) :
    other = hidden.veil.server server ∧ hidden.veil.Covers server.lobby :=
  ⟨hides.same.trans (server_veil linked).symm, covers_veil_iff.2 hides.holds⟩

theorem sessions (hides : Hides hidden server other) : other.sessions = server.sessions := by
  rw [hides.same]
  rfl

/-- What happens to the sessions happens to both. -/
theorem withSessions (hides : Hides hidden server other) (rest : Sessions) :
    Hides hidden { server with sessions := rest } { other with sessions := rest } := by
  rcases hides with ⟨holds, rfl⟩
  exact ⟨holds, rfl⟩

theorem begin (hides : Hides hidden server other) :
    Hides hidden { server with said := [] } { other with said := [] } := by
  rcases hides with ⟨holds, rfl⟩
  exact ⟨holds, rfl⟩

theorem handOver (hides : Hides hidden server other) :
    Hides hidden server.handOver other.handOver := by
  rcases hides with ⟨holds, rfl⟩
  exact ⟨holds, rfl⟩

theorem tell (hides : Hides hidden server other) (id : ConnectionId) (notice : Notice) :
    Hides hidden (server.tell id notice) (other.tell id notice) := by
  rcases hides with ⟨holds, rfl⟩
  exact ⟨holds, rfl⟩

section Linked

variable (hides : Hides hidden server other) (linked : server.Linked)

include hides linked

theorem tellRoom (notice : Notice) (except : Option PlayerId) :
    Hides hidden (server.tellRoom number notice except) (other.tellRoom number notice except) := by
  rcases hides.veil linked with ⟨rfl, covers⟩
  rw [hidden.veil.tellRoom_server, tellRoom_eq_saying]
  exact of_veil (linked.saying _) rfl covers

theorem tellWake (id : ConnectionId) : Hides hidden (server.tellWake id) (other.tellWake id) := by
  rcases hides.veil linked with ⟨rfl, covers⟩
  rw [hidden.veil.tellWake_server, tellWake_eq_saying]
  exact of_veil (linked.saying _) rfl covers

theorem terminate {reason : EndReason}
    (stays : (server.terminate id reason).lobby.Seats hidden.room hidden.player) :
    Hides hidden (server.terminate id reason) (other.terminate id reason) := by
  have blind : ∀ player ∈ server.player? id, hidden.veil.Blind player := by
    rintro player carries _ ⟨⟩ rfl
    exact (seats_of_terminate linked stays).2 carries
  rcases hides.veil linked with ⟨rfl, covers⟩
  rcases Veil.terminate_server linked covers blind reason with ⟨same, covers'⟩
  exact of_veil (linked.terminate id reason) same covers'

theorem serveFrames {frames : List Wire.Frame} (quiet : server.Quiet hidden.player id frames) :
    Hides hidden (server.serveFrames id frames) (other.serveFrames id frames) := by
  rcases hides.veil linked with ⟨rfl, covers⟩
  have quiet' : ∀ hidden' ∈ hidden.veil.hidden, server.Quiet hidden'.player id frames := by
    rintro _ ⟨⟩
    exact quiet
  rcases Veil.serveFrames_server linked covers quiet' with ⟨same, covers'⟩
  exact of_veil (linked.serveFrames id frames) same covers'

theorem react (event : ConnectionId × LivenessEvent)
    (stays : (server.react event).lobby.Seats hidden.room hidden.player) :
    Hides hidden (server.react event) (other.react event) := by
  rcases event with ⟨id, _ | _⟩
  · have seat : other.seated? id = server.seated? id := by rw [seated?, seated?, hides.sessions]
    simp only [Server.react, seat]
    split
    · exact hides.tellRoom linked _ _
    · exact hides
  · exact hides.terminate linked stays

theorem reactions {events : List (ConnectionId × LivenessEvent)}
    (stays : (events.foldl Server.react server).lobby.Seats hidden.room hidden.player) :
    Hides hidden (events.foldl Server.react server) (events.foldl Server.react other) := by
  induction events generalizing server other with
  | nil => exact hides
  | cons event events ih =>
    have linked' := linked.react event
    exact ih (hides.react linked event (seats_of_reactions linked' stays)) linked' stays

end Linked

end Hides

/-! ## Calls -/

/-- The server when the frames that come in with a call are about to be served, and these frames. -/
def serving? (server : Server) (id : ConnectionId) (arrivals : List Arrival) (now : Nanos) :
    Option (Server × List Wire.Frame) := do
  let session ← server.sessions.get? id
  let received := session.receive server.sessions.config arrivals now
  let traffic ← received.1.toOption
  let frames ← received.2.takeFrames.1.toOption
  return (server.beforeFrames received.2.takeFrames.2 traffic, frames)

/-- Nothing is served in a call for the connection that carries the player. -/
def Spares (server : Server) (player : PlayerId) : Call → Prop
  | .receive id arrivals now =>
    ∀ serving ∈ server.serving? id arrivals now, serving.1.Quiet player id serving.2
  | _ => True

instance (server : Server) (player : PlayerId) (call : Call) :
    Decidable (server.Spares player call) :=
  match call with
  | .receive id arrivals now =>
    inferInstanceAs (Decidable (∀ serving ∈ server.serving? id arrivals now, _))
  | .accept .. | .transmit .. | .sweep _ | .takeClosings => inferInstanceAs (Decidable True)

/-- Nothing is served in several calls for the connection that carries the player. -/
def Silent (player : PlayerId) : Server → List Call → Prop
  | _, [] => True
  | server, call :: calls =>
    server.Spares player call ∧ (server.afterCall call).Silent player calls

instance decidableSilent (player : PlayerId) :
    ∀ server calls, Decidable (Silent player server calls)
  | _, [] => inferInstanceAs (Decidable True)
  | server, call :: calls =>
    have := decidableSilent player (server.afterCall call) calls
    inferInstanceAs (Decidable (server.Spares player call ∧ _))

/-! ## No input -/

/-- Nothing comes in for the player in a call: the connection that carries the player delivers no
byte, and one that takes the player over has no further frame in the call. -/
def Misses (server : Server) (player : PlayerId) : Call → Prop
  | .receive id arrivals now =>
    if server.player? id = some player then Arrival.delivered arrivals = []
    else ∀ serving ∈ server.serving? id arrivals now, serving.1.Quiet player id serving.2
  | _ => True

/-- Nothing comes in for the player in several calls, whoever carries the player at the time. -/
def Absent (player : PlayerId) : Server → List Call → Prop
  | _, [] => True
  | server, call :: calls => server.Misses player call ∧ (server.afterCall call).Absent player calls

/-- Between two calls every whole frame has been read, so nothing is served for a connection that
delivers nothing. -/
theorem spares_of_misses (rested : server.Rested server.awake) {call : Call}
    (misses : server.Misses player call) : server.Spares player call := by
  cases call with
  | accept | transmit | sweep | takeClosings => trivial
  | receive id arrivals now =>
    rintro ⟨before, frames⟩ serving
    dsimp only [Misses] at misses
    split at misses
    · simp only [serving?, Option.bind_eq_bind] at serving
      rcases Option.bind_eq_some_iff.1 serving with ⟨session, found, serving⟩
      rcases Option.bind_eq_some_iff.1 serving with ⟨traffic, _, serving⟩
      rcases Option.bind_eq_some_iff.1 serving with ⟨_, read, ⟨⟩⟩
      rw [Session.takeFrames, Session.incoming_receive_of_nothing misses,
        (rested found).settled.read] at read
      cases read
      trivial
    · exact misses _ serving

theorem silent_of_absent (linked : server.Linked) (rested : server.Rested server.awake)
    {calls : List Call} (absent : server.Absent player calls) : server.Silent player calls := by
  induction calls generalizing server with
  | nil => trivial
  | cons call calls ih =>
    refine ⟨spares_of_misses rested absent.1, ?_⟩
    exact ih (invariant_linked.afterCall linked call) (rested.afterCall linked call) absent.2

namespace Hides

variable (hides : Hides hidden server other) (linked : server.Linked)

include hides linked

theorem receiveCore (fresh : server.said = []) {arrivals : List Arrival} {now : Nanos}
    (spares : server.Spares hidden.player (.receive id arrivals now))
    (stays : (server.receiveCore id arrivals now).lobby.Seats hidden.room hidden.player) :
    Hides hidden (server.receiveCore id arrivals now) (other.receiveCore id arrivals now) := by
  rw [Server.receiveCore] at stays
  rw [Server.receiveCore, Server.receiveCore, hides.sessions]
  cases found : server.sessions.get? id with
  | none => exact hides
  | some session =>
    have standing := Session.standing_receive session server.sessions.config arrivals now
    have filled := (Step.fill found arrivals now).linked linked
    have read := (Step.read found arrivals now).linked linked
    simp only [found] at stays ⊢
    rcases received : session.receive server.sessions.config arrivals now with
      ⟨error | traffic, rest⟩
    · rw [received] at filled
      simp only [received] at stays ⊢
      exact (hides.withSessions _).terminate filled stays
    · rw [received] at read standing
      simp only [received] at stays ⊢
      have put := hides.withSessions (server.sessions.put rest.takeFrames.2)
      have woken : Hides hidden (server.woken id rest.takeFrames.2 traffic.woke)
          (if traffic.woke then
            Server.tellWake { other with sessions := server.sessions.put rest.takeFrames.2 } id
          else { other with sessions := server.sessions.put rest.takeFrames.2 }) := by
        rw [Server.woken]
        split
        · exact put.tellWake read id
        · exact put
      have linked' : (server.woken id rest.takeFrames.2 traffic.woke).Linked :=
        linked_woken found (linked.indexed.filed found)
          ((Session.standing_takeFrames rest).trans standing) linked traffic.woke
      cases cut : rest.takeFrames.1 with
      | error error =>
        simp only [cut] at stays ⊢
        exact woken.terminate linked' stays
      | ok frames =>
        simp only [cut] at stays ⊢
        have own : rest.takeFrames.2.id = id :=
          (Session.standing_eq_iff.1 standing).1.trans (linked.indexed.filed found)
        have serving : server.serving? id arrivals now =
            some (server.woken id rest.takeFrames.2 traffic.woke, frames) := by
          simp only [serving?, found, Option.bind_eq_bind, Option.bind_some, received, cut,
            Except.toOption, beforeFrames, own, ← fresh]
          rfl
        exact woken.serveFrames linked' (spares _ serving)

theorem transmitCore {uptake : Uptake}
    (stays : (server.transmitCore id uptake).2.lobby.Seats hidden.room hidden.player) :
    Hides hidden (server.transmitCore id uptake).2 (other.transmitCore id uptake).2 := by
  rw [Server.transmitCore] at stays
  rw [Server.transmitCore, Server.transmitCore, hides.sessions]
  cases found : server.sessions.get? id with
  | none => exact hides
  | some session =>
    have drained := (Step.drain found uptake).linked linked
    have put := hides.withSessions (server.sessions.put (session.transmit uptake).session)
    simp only [found] at stays ⊢
    split
    · exact put
    · next failed =>
      simp only [failed] at stays
      exact put.terminate drained stays

theorem sweepCore {now : Nanos}
    (stays : (server.sweepCore now).lobby.Seats hidden.room hidden.player) :
    Hides hidden (server.sweepCore now) (other.sweepCore now) := by
  have pinged (ids : List ConnectionId) {server other : Server} (hides : Hides hidden server other) :
      Hides hidden (ids.foldl (·.tell · .ping) server) (ids.foldl (·.tell · .ping) other) := by
    induction ids generalizing server other with
    | nil => exact hides
    | cons id ids ih => exact ih (hides.tell id .ping)
  have looked := hides.withSessions (server.sessions.beat now).sessions
  have linked' := (quietly_pings ((Step.beat now).linked linked) (fun _ => true)
    (server.sessions.beat now).pings).1
  rw [Server.sweepCore] at stays
  rw [Server.sweepCore, Server.sweepCore, hides.sessions]
  exact (pinged _ looked).reactions linked' stays

omit linked in
theorem acceptCore (id : ConnectionId) (now : Nanos) :
    Hides hidden (server.acceptCore id now) (other.acceptCore id now) := by
  rcases hides with ⟨holds, rfl⟩
  have admits : (server.withHand hidden).admits = server.admits := rfl
  rw [Server.acceptCore, Server.acceptCore, admits]
  split <;> exact ⟨holds, rfl⟩

theorem afterCall {call : Call} (spares : server.Spares hidden.player call)
    (stays : (server.afterCall call).lobby.Seats hidden.room hidden.player) :
    Hides hidden (server.afterCall call) (other.afterCall call) := by
  have linked' : ({ server with said := [] } : Server).Linked := Step.begin.linked linked
  cases call with
  | accept id now => exact (hides.begin.acceptCore id now).handOver
  | receive id arrivals now => exact (hides.begin.receiveCore linked' rfl spares stays).handOver
  | transmit id uptake => exact (hides.begin.transmitCore linked' stays).handOver
  | sweep now => exact (hides.begin.sweepCore linked' stays).handOver
  | takeClosings =>
    rcases hides with ⟨holds, rfl⟩
    exact ⟨holds, rfl⟩

theorem run {calls : List Call} (silent : server.Silent hidden.player calls) {count : Nat}
    (stays : ∀ earlier ≤ count,
      (server.run (calls.take earlier)).lobby.Seats hidden.room hidden.player) :
    Hides hidden (server.run (calls.take count)) (other.run (calls.take count)) := by
  induction calls generalizing server other count with
  | nil => simpa [Server.run] using hides
  | cons call calls ih =>
    cases count with
    | zero => exact hides
    | succ count =>
      have first := hides.afterCall linked silent.1 (stays 1 (by omega))
      have linked' := invariant_linked.afterCall linked call
      exact ih first linked' silent.2 fun earlier within => stays (earlier + 1) (by omega)

omit linked in
/-- What is not the hidden hand is the same in both. -/
theorem alike : Hides hidden server other ∧
    (∀ id, other.sessions.get? id = server.sessions.get? id) ∧
    other.closings = server.closings ∧ other.admits = server.admits := by
  refine ⟨hides, fun id => by rw [hides.sessions], ?_, ?_⟩
  · rw [hides.same]
    rfl
  · rw [hides.same]
    rfl

end Hides

/-- Let two servers differ in nothing but what a player holds in the game of a room, cards in both.
Through all calls in which nothing is served for the connection that carries the player, whoever that
is at the time, and for as long as the player keeps the seat, they differ in nothing else: every
session has the same bytes to send, the same connections are to be closed, and the same ones would be
let in. -/
theorem hidden_hand_unseen (linked : server.Linked) (hides : Hides hidden server other)
    (calls : List Call) (silent : server.Silent hidden.player calls) (count : Nat)
    (stays : ∀ earlier ≤ count,
      (server.run (calls.take earlier)).lobby.Seats hidden.room hidden.player) :
    let here := server.run (calls.take count)
    let there := other.run (calls.take count)
    Hides hidden here there ∧
      (∀ id, there.sessions.get? id = here.sessions.get? id) ∧
      there.closings = here.closings ∧ there.admits = here.admits :=
  (hides.run linked silent stays).alike

/-- Ann lays a card, Bob falls asleep and comes back on another connection, and Ann looks at the
table: whether he holds what he was dealt or nothing but the king of hearts, nobody can tell. -/
theorem hidden_hand_unseen_of_return :
    let server := (start ServerConfig.standard.validated []).run (duel.take 4)
    let king : HiddenHand := ⟨0, 2, [⟨.hearts, .king⟩], by decide⟩
    let send (id : ConnectionId) (text : String) (now : Nanos) : Call :=
      .receive id [.bytes 0x50 (Wire.bytesOf text)] now
    let later : Nanos := .ofMillis 5000
    let calls : List Call := [send 1 "RSI PLAY KA |" 3, .receive 2 [.fault .wouldBlock] 4,
      .sweep (later + 3), .accept 3 (later + 4), send 3 "RSI NAME Bob |" (later + 5),
      send 1 "RSI STATE |" (later + 6)]
    Hides king (server.run calls) ((server.withHand king).run calls) ∧
      ∀ id, ((server.withHand king).run calls).sessions.get? id =
        (server.run calls).sessions.get? id := by
  intro server king send later calls
  have linked : server.Linked := (Reachable.start.run _).linked
  have hides : Hides king server (server.withHand king) := ⟨by decide +kernel, rfl⟩
  have silent : server.Silent 2 calls := by decide +kernel
  have stays : ∀ earlier ≤ 6, (server.run (calls.take earlier)).HoldsIn 0 2 := by decide +kernel
  have seats : ∀ earlier ≤ 6, (server.run (calls.take earlier)).lobby.Seats 0 2 := by
    intro earlier within
    rcases stays earlier within with ⟨room, found, member, _⟩
    exact ⟨room, found, member⟩
  rcases hidden_hand_unseen linked hides calls silent 6 seats with ⟨differ, sessions, _⟩
  exact ⟨differ, sessions⟩

/-- The same from between two calls on, as long as the connection that carries the player delivers
nothing, whoever that is at the time. -/
theorem hidden_hand_unseen_without_input (linked : server.Linked)
    (rested : server.Rested server.awake) (hides : Hides hidden server other) (calls : List Call)
    (absent : server.Absent hidden.player calls) (count : Nat)
    (stays : ∀ earlier ≤ count,
      (server.run (calls.take earlier)).lobby.Seats hidden.room hidden.player) :
    let here := server.run (calls.take count)
    let there := other.run (calls.take count)
    Hides hidden here there ∧
      (∀ id, there.sessions.get? id = here.sessions.get? id) ∧
      there.closings = here.closings ∧ there.admits = here.admits :=
  (hides.run linked (silent_of_absent linked rested absent) stays).alike

end Server

end CardTable
