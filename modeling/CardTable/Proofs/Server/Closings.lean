import CardTable.Proofs.Server.Books
import CardTable.Proofs.Server.Runs
import CardTable.Proofs.Session.Clocks

/-!
# Every connection is closed once

A connection that has been made is in the books once, among the live ones or among those that are to
be closed. Failures, sweeps and requests move connections from one side to the other and never count
one twice. So over a whole run every connection that has come is live or has been closed once.
-/

namespace CardTable.Server

variable {server next : Server} {id : ConnectionId}

/-! ## Ended sessions -/

/-- Ending a session comes down to closing it. -/
theorem exists_terminate (server : Server) (id : ConnectionId) (reason : EndReason) :
    ∃ middle cause, server.Steady middle ∧ server.terminate id reason =
      ({ middle with sessions := (middle.sessions.close id).2 } : Server).close id cause := by
  rcases (server.unseat id).shut_eq id reason with ⟨cause, closed⟩
  exact ⟨server.unseat id, cause, steady_unseat server id, closed⟩

theorem isSome_terminate (server : Server) (reason : EndReason) {asked : ConnectionId}
    (other : asked ≠ id) : ((server.terminate id reason).sessions.get? asked).isSome =
      (server.sessions.get? asked).isSome := by
  rw [sessions_terminate, Sessions.get?_close, if_neg other]

/-- Whoever is live and is ended is closed. -/
theorem balances_terminate (filed : server.Filed) (live : (server.sessions.get? id).isSome)
    (reason : EndReason) : server.Balances (server.terminate id reason) := by
  rcases exists_terminate server id reason with ⟨middle, cause, steady, ended⟩
  have begun := steady.balances filed
  rw [ended]
  refine begun.trans (balances_of_close begun.filed ((steady.isSome id).trans live) ?_ cause)
  intro asked
  rw [Sessions.get?_close]
  split <;> rfl

theorem balances_serveFrames (filed : server.Filed) (live : (server.sessions.get? id).isSome)
    (frames : List Wire.Frame) : server.Balances (server.serveFrames id frames) := by
  induction frames generalizing server with
  | nil => exact .refl filed
  | cons frame later ih =>
    have serves := serves_frame filed id frame
    rw [serveFrames]
    cases served : server.dispatch id frame with
    | ok next =>
      rw [served] at serves
      exact serves.balances.trans (ih serves.balances.filed (serves.own live))
    | error failure =>
      rw [served] at serves
      exact serves.balances.trans (balances_terminate serves.balances.filed (serves.own live) _)

/-! ## Calls -/

theorem balances_receiveCore (filed : server.Filed) (id : ConnectionId) (arrivals : List Arrival)
    (now : Nanos) : server.Balances (server.receiveCore id arrivals now) := by
  unfold receiveCore
  split
  · exact .refl filed
  · next session found =>
    have live : (server.sessions.get? id).isSome := by simp [found]
    have standing := Session.standing_receive session server.sessions.config arrivals now
    dsimp only
    split
    · next error rest received =>
      rw [received] at standing
      have put := steady_put filed found standing
      have begun := put.balances filed
      exact begun.trans (balances_terminate begun.filed ((put.isSome id).trans live) _)
    · next traffic rest received =>
      rw [received] at standing
      have put := steady_put filed found ((Session.standing_takeFrames rest).trans standing)
      have woken : server.Steady (if traffic.woke = true then
          Server.tellWake { server with sessions := server.sessions.put rest.takeFrames.2 } id
          else { server with sessions := server.sessions.put rest.takeFrames.2 }) := by
        split
        · rw [tellWake_eq_saying]
          exact put.trans (.of_eq rfl rfl)
        · exact put
      have begun := woken.balances filed
      have still := (woken.isSome id).trans live
      split
      · exact begun.trans (balances_terminate begun.filed still _)
      · exact begun.trans (balances_serveFrames begun.filed still _)

theorem balances_transmitCore (filed : server.Filed) (id : ConnectionId) (uptake : Uptake) :
    server.Balances (server.transmitCore id uptake).2 := by
  unfold transmitCore
  split
  · exact .refl filed
  · next session found =>
    have live : (server.sessions.get? id).isSome := by simp [found]
    have put := steady_put filed found (Session.standing_transmit session uptake)
    have begun := put.balances filed
    dsimp only
    split
    · exact begun
    · exact begun.trans (balances_terminate begun.filed ((put.isSome id).trans live) _)

theorem ordered_events (sessions : Sessions) (now : Nanos) :
    (sessions.beat now).events.Pairwise fun event later => event.1 < later.1 := by
  refine List.Pairwise.filterMap _ ?_ (Directory.ordered _)
  rintro ⟨id, look⟩ ⟨later, look'⟩ below event told event' told'
  rcases Option.map_eq_some_iff.1 told with ⟨_, _, rfl⟩
  rcases Option.map_eq_some_iff.1 told' with ⟨_, _, rfl⟩
  exact below

/-- Nobody dies twice in a sweep: the clocks have one event for each connection at most. -/
theorem nodup_events (sessions : Sessions) (now : Nanos) :
    ((sessions.beat now).events.map Prod.fst).Nodup :=
  List.pairwise_map.2 ((ordered_events sessions now).imp Nat.ne_of_lt)

theorem balances_reactions (filed : server.Filed) {events : List (ConnectionId × LivenessEvent)}
    (distinct : (events.map Prod.fst).Nodup)
    (live : ∀ event ∈ events, (server.sessions.get? event.1).isSome) :
    server.Balances (events.foldl react server) := by
  induction events generalizing server with
  | nil => exact .refl filed
  | cons first events ih =>
    rw [List.map_cons, List.nodup_cons] at distinct
    rw [List.forall_mem_cons] at live
    have reacts : server.Balances (server.react first) ∧ ∀ asked, asked ≠ first.1 →
        ((server.react first).sessions.get? asked).isSome =
          (server.sessions.get? asked).isSome := by
      rcases first with ⟨id, _ | _⟩
      · have steady : server.Steady (server.react (id, .fellAsleep)) := by
          simp only [react, tellRoom_eq_saying]
          split
          · exact .of_eq rfl rfl
          · exact .refl _
        exact ⟨steady.balances filed, fun asked _ => steady.isSome asked⟩
      · exact ⟨balances_terminate filed live.1 _, fun _ other => isSome_terminate server _ other⟩
    refine reacts.1.trans (ih reacts.1.filed distinct.2 ?_)
    intro event member
    have other : event.1 ≠ first.1 := by
      intro same
      exact distinct.1 (same ▸ List.mem_map_of_mem member)
    rw [reacts.2 event.1 other]
    exact live.2 event member

theorem steady_pings (server : Server) (ids : List ConnectionId) :
    server.Steady (ids.foldl (·.tell · .ping) server) := by
  induction ids generalizing server with
  | nil => exact .refl _
  | cons id ids ih =>
    have told : server.Steady (server.tell id .ping) := .of_eq rfl rfl
    exact told.trans (ih _)

theorem balances_sweepCore (filed : server.Filed) (now : Nanos) :
    server.Balances (server.sweepCore now) := by
  have looked : server.Steady { server with sessions := (server.sessions.beat now).sessions } :=
    .of_alike (Sessions.alike_beat _ now) rfl
  have pinged := looked.trans (steady_pings _ (server.sessions.beat now).pings)
  have begun := pinged.balances filed
  refine begun.trans (balances_reactions begun.filed (nodup_events _ now) ?_)
  rintro ⟨id, event⟩ told
  rcases Sessions.mem_events_iff.1 told with ⟨session, found, _⟩
  rw [pinged.isSome, found]
  rfl

theorem steady_handOver (server : Server) : server.Steady server.handOver :=
  .of_alike (Sessions.alike_deliver _ _) rfl

/-- A call, as long as it makes no new connection. -/
theorem Balances.during {call : Server → Server} (filed : server.Filed)
    (balances : ∀ {server : Server}, server.Filed → server.Balances (call server)) :
    server.Balances (server.during call) := by
  let begun : Server := { server with said := [] }
  have filed' : begun.Filed := filed
  have called := balances filed'
  exact ⟨((steady_handOver _).balances called.filed).filed,
    (called.trans ((steady_handOver _).balances called.filed)).tally⟩

/-! ## Runs -/

/-- The connection that a call makes. -/
def Call.made? : Call → Option ConnectionId
  | .accept id _ => some id
  | _ => none

/-- The closings that a call hands out. -/
def handedOut (server : Server) : Call → List Closing
  | .takeClosings => server.takeClosings.1
  | _ => []

/-- The connections that are to be closed according to some calls, those that are handed out in them
before those that wait at the end. -/
def closed (server : Server) : List Call → List ConnectionId
  | [] => server.closings.map Closing.connection
  | call :: calls =>
    (server.handedOut call).map Closing.connection ++ (server.afterCall call).closed calls

theorem tally_acceptCore (filed : server.Filed) (missing : server.sessions.get? id = none)
    (now : Nanos) : (server.acceptCore id now).Filed ∧
      ∀ asked, (server.acceptCore id now).tally asked = server.tally asked + [id].count asked := by
  have once (asked : ConnectionId) : [id].count asked = if asked = id then 1 else 0 := by
    rw [List.count_singleton]
    by_cases same : asked = id <;> simp [same, Ne.symm]
  rw [acceptCore]
  split
  · have after := Sessions.get?_connect missing now
    refine ⟨?_, ?_⟩
    · intro asked session found
      change (server.sessions.connect id now).get? asked = some session at found
      rw [after] at found
      split at found
      · next same =>
        cases found
        exact same.symm
      · exact filed found
    · intro asked
      change (if ((server.sessions.connect id now).get? asked).isSome then 1 else 0) + _ = _
      rw [after, once, tally]
      by_cases same : asked = id
      · simp [same, missing, Nat.add_comm]
      · simp [same]
  · refine ⟨filed, fun asked => ?_⟩
    rw [tally_close, once]

/-- A call adds the connection that it makes to the books, and takes those out that it hands out to
be closed. -/
theorem tally_afterCall (filed : server.Filed) (call : Call)
    (new : ∀ id ∈ call.made?, server.sessions.get? id = none) :
    (server.afterCall call).Filed ∧
      ∀ id, (server.afterCall call).tally id +
          ((server.handedOut call).map Closing.connection).count id =
        server.tally id + call.made?.toList.count id := by
  have balanced {next : Server} (balances : server.Balances next) : next.Filed ∧
      ∀ id, next.tally id + ([] : List ConnectionId).count id =
        server.tally id + ([] : List ConnectionId).count id :=
    ⟨balances.filed, balances.tally⟩
  cases call with
  | accept id now =>
    let begun : Server := { server with said := [] }
    have filed' : begun.Filed := filed
    rcases tally_acceptCore filed' (new id rfl) now with ⟨accepted, tally⟩
    have delivered := (steady_handOver (begun.acceptCore id now)).balances accepted
    exact ⟨delivered.filed, fun asked => (delivered.tally asked).trans (tally asked)⟩
  | receive id arrivals now =>
    exact balanced (Balances.during filed fun filed => balances_receiveCore filed id arrivals now)
  | transmit id uptake =>
    exact balanced (@Balances.during _ (fun server => (server.transmitCore id uptake).2) filed
      fun filed => balances_transmitCore filed id uptake)
  | sweep now => exact balanced (Balances.during filed fun filed => balances_sweepCore filed now)
  | takeClosings =>
    refine ⟨filed, fun id => ?_⟩
    exact Nat.add_right_comm _ _ _

/-- Over a run in which no connection is made twice, every connection is in the books or has been
handed out to be closed as often as it has been made. -/
theorem tally_run (filed : server.Filed) {earlier : List ConnectionId} {calls : List Call}
    (once : (earlier ++ calls.filterMap Call.made?).Nodup)
    (books : ∀ id, server.tally id ≤ earlier.count id) (id : ConnectionId) :
    (if ((server.run calls).sessions.get? id).isSome then 1 else 0) +
        (server.closed calls).count id =
      server.tally id + (calls.filterMap Call.made?).count id := by
  induction calls generalizing server earlier with
  | nil => rfl
  | cons call calls ih =>
    have split : (call :: calls).filterMap Call.made? =
        call.made?.toList ++ calls.filterMap Call.made? :=
      (@List.filterMap_append _ _ [call] calls _).trans (by cases call <;> rfl)
    rw [split] at once ⊢
    have new : ∀ made ∈ call.made?, server.sessions.get? made = none := by
      intro made member
      by_contra live
      have there : (server.sessions.get? made).isSome := Option.isSome_iff_ne_none.2 live
      have known : 1 ≤ server.tally made := by
        rw [tally, if_pos there]
        omega
      have twice := List.nodup_iff_count_le_one.1 once made
      have before := books made
      rw [Option.mem_def.1 member, List.count_append, List.count_append, Option.toList_some,
        List.count_singleton_self] at twice
      omega
    rcases tally_afterCall filed call new with ⟨filed', tally⟩
    rw [← List.append_assoc] at once
    have rest := ih filed' once (by
      intro asked
      have before := books asked
      have after := tally asked
      rw [List.count_append]
      omega)
    rw [closed, List.count_append, List.count_append]
    have after := tally id
    change (if (((server.afterCall call).run calls).sessions.get? id).isSome then 1 else 0) +
      (_ + _) = _
    omega

/-! ## Connections that are gone -/

/-- Nothing comes of what happens on a connection that is not live; all that ends is the record of
the call before. -/
theorem calls_of_gone (gone : server.sessions.get? id = none) (arrivals : List Arrival)
    (now : Nanos) (uptake : Uptake) :
    server.receive id arrivals now = { server with said := [] } ∧
      server.transmit id uptake = ([], { server with said := [] }) := by
  have quiet : ({ server with said := [] } : Server).handOver = { server with said := [] } := by
    simp only [handOver, mail, List.reverse_nil, Sessions.deliver_nil]
  refine ⟨?_, ?_⟩
  · simp only [receive, during, receiveCore, gone, quiet]
  · simp only [transmit, transmitCore, gone, quiet]

/-- Whatever happens, in whichever order and with whatever configuration, a connection that has been
made is either live and has never been to be closed, or is gone and has been to be closed exactly
once. Nobody else is ever to be closed, and nothing comes of what happens on a connection that is
gone. -/
theorem closed_exactly_once (config : ServerConfig) (deals : List Deal) (calls : List Call)
    (once : (calls.filterMap Call.made?).Nodup) (id : ConnectionId) :
    let server := (start config deals).run calls
    let closed := (start config deals).closed calls
    (id ∈ calls.filterMap Call.made? →
      (server.sessions.get? id).isSome ∧ id ∉ closed ∨
        server.sessions.get? id = none ∧ closed.count id = 1) ∧
    (id ∉ calls.filterMap Call.made? → server.sessions.get? id = none ∧ id ∉ closed) ∧
    (server.sessions.get? id = none → ∀ arrivals now uptake,
      server.receive id arrivals now = { server with said := [] } ∧
        server.transmit id uptake = ([], { server with said := [] })) := by
  dsimp only
  have filed : (start config deals).Filed := by
    intro asked session found
    cases found
  have none (asked : ConnectionId) : (start config deals).tally asked = 0 := rfl
  have books := @tally_run _ filed [] calls once (fun asked => (none asked).le) id
  rw [none, Nat.zero_add] at books
  refine ⟨?_, ?_, calls_of_gone⟩
  · intro made
    rw [List.count_eq_one_of_mem once made] at books
    cases live : ((start config deals).run calls).sessions.get? id with
    | some session =>
      simp only [live, Option.isSome_some, if_true] at books
      exact .inl ⟨rfl, List.count_eq_zero.1 (by omega)⟩
    | none =>
      simp only [live, Option.isSome_none, Bool.false_eq_true, if_false] at books
      exact .inr ⟨rfl, by omega⟩
  · intro unmade
    rw [List.count_eq_zero.2 unmade] at books
    refine ⟨?_, List.count_eq_zero.1 (by omega)⟩
    by_contra live
    rw [if_pos (Option.isSome_iff_ne_none.2 live)] at books
    omega

/-- Ann falls asleep and comes back on another connection while a third one finds the server full.
What happens on her first connection afterwards has no effect, and it has been closed once. -/
theorem closed_exactly_once_of_return :
    let later : Nanos := .ofMillis 5000
    let calls : List Call := [.accept 1 0,
      .receive 1 [.bytes 0x50 (Wire.bytesOf "RSI NAME Ann |")] 1, .sweep (later + 2),
      .accept 2 (later + 3), .accept 3 (later + 3),
      .receive 2 [.bytes 0x50 (Wire.bytesOf "RSI NAME Ann |")] (later + 4), .takeClosings,
      .receive 1 [.closed] (later + 5), .transmit 1 (.fault (.broken "")),
      .sweep (.ofMillis 200000)]
    ((start { maxClients := 2 } []).run calls).sessions.get? 1 = none ∧
      ((start { maxClients := 2 } []).closed calls).count 1 = 1 := by
  intro later calls
  rcases (closed_exactly_once { maxClients := 2 } [] calls (by decide) 1).1 (by decide) with
    live | gone
  · exact absurd live.1 (by decide +kernel)
  · exact gone

end CardTable.Server
