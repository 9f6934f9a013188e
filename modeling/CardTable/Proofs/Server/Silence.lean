import CardTable.Proofs.Server.Deliveries
import CardTable.Proofs.Server.Effects
import CardTable.Proofs.Server.Validation
import CardTable.Proofs.Session.Silence

/-!
# Silence decides

How a session stands after a sweep depends on nothing but how long it has been silent. What the
sweeps before it have found, or how many there were, leaves no trace.
-/

namespace CardTable.Server

variable {server next : Server} {id : ConnectionId} {session later : Session}
  {thresholds : Thresholds} {early now : Nanos}

/-! ## What ended sessions leave behind -/

/-- Whoever is live and is ended is to be closed, under the nickname it had. -/
theorem closings_terminate (live : server.sessions.get? id = some session) (reason : EndReason) :
    (server.terminate id reason).closings =
      server.closings ++ [⟨id, .ended session.nickname? reason⟩] := by
  have live' : (server.unseat id).sessions.get? id = some session := by rwa [sessions_unseat]
  rw [terminate_eq, shut, Sessions.close, live', ← (steady_unseat server id).closings]
  rfl

theorem config_terminate (server : Server) (id : ConnectionId) (reason : EndReason) :
    (server.terminate id reason).sessions.config = server.sessions.config := by
  rw [sessions_terminate, Sessions.close]
  split <;> rfl

/-- Nobody is configured anew in a run. -/
theorem invariant_configured (config : SessionConfig) :
    Invariant fun server => server.Linked ∧ server.sessions.config = config := by
  refine ⟨And.left, ?_⟩
  rintro server next ⟨linked, rfl⟩ step
  refine ⟨step.linked linked, ?_⟩
  cases step with
  | begin | finish | fill | read | drain | beat | ping | collect => rfl
  | accept id now =>
    unfold acceptCore
    split
    · unfold Sessions.connect
      dsimp only
      split <;> rfl
    · rfl
  | wake id => rw [tellWake_eq_saying, sessions_saying]
  | @serve id frame _ served =>
    have acts := @config_act _ id linked (.ok [frame])
    simpa [act, serveFrames, served] using acts
  | terminate id reason => exact config_terminate _ id reason
  | react event =>
    rcases event with ⟨id, _ | _⟩
    · simp only [react, tellRoom_eq_saying]
      split <;> rfl
    · exact config_terminate _ id .silence

/-! ## A sweep -/

/-- The closing of a connection that dies in a sweep. -/
def obituary? (server : Server) (event : ConnectionId × LivenessEvent) : Option Closing :=
  match event with
  | (_, .fellAsleep) => none
  | (id, .died) =>
    (server.sessions.get? id).map fun session => ⟨id, .ended session.nickname? .silence⟩

/-- A reaction takes out whoever has died, who is to be closed, and nobody else. -/
theorem reacted_once {event : ConnectionId × LivenessEvent}
    (live : (server.sessions.get? event.1).isSome) :
    (∀ asked, (server.react event).sessions.get? asked =
      if (asked, .died) = event then none else server.sessions.get? asked) ∧
    (server.react event).closings = server.closings ++ (server.obituary? event).toList := by
  rcases event with ⟨id, _ | _⟩
  · simp only [react, tellRoom_eq_saying]
    split <;> simp [obituary?, saying]
  · rcases Option.isSome_iff_exists.1 live with ⟨session, found⟩
    have found' : server.sessions.get? id = some session := found
    refine ⟨fun asked => ?_, ?_⟩
    · simp only [react, sessions_terminate, Sessions.get?_close, Prod.mk.injEq, and_true]
    · simp only [react, closings_terminate found', obituary?, found', Option.map_some,
        Option.toList_some]

/-- Reactions take out the dead, each of whom is to be closed, and nobody else. -/
theorem reacted {events : List (ConnectionId × LivenessEvent)}
    (distinct : (events.map Prod.fst).Nodup)
    (live : ∀ event ∈ events, (server.sessions.get? event.1).isSome) :
    (∀ asked, (events.foldl react server).sessions.get? asked =
      if (asked, .died) ∈ events then none else server.sessions.get? asked) ∧
    (events.foldl react server).closings =
      server.closings ++ events.filterMap server.obituary? := by
  induction events generalizing server with
  | nil => exact ⟨fun _ => rfl, (List.append_nil _).symm⟩
  | cons first events ih =>
    rw [List.map_cons, List.nodup_cons] at distinct
    rw [List.forall_mem_cons] at live
    have others : ∀ event ∈ events, event.1 ≠ first.1 := by
      intro event member same
      exact distinct.1 (same ▸ List.mem_map_of_mem member)
    have reacts := reacted_once live.1
    -- The later events are about other connections, which the first reaction leaves as they are.
    have stays : ∀ event ∈ events, (server.react first).sessions.get? event.1 =
        server.sessions.get? event.1 := by
      intro event member
      rw [reacts.1, if_neg]
      rintro rfl
      exact others event member rfl
    rcases ih distinct.2 (fun event member => by
      rw [stays event member]; exact live.2 event member) with ⟨sessions, closings⟩
    have same : events.filterMap (server.react first).obituary? =
        events.filterMap server.obituary? := by
      refine List.filterMap_congr fun event member => ?_
      have kept := stays event member
      rcases event with ⟨id, _ | _⟩
      · rfl
      · simp only [obituary?, kept]
    refine ⟨fun asked => ?_, ?_⟩
    · rw [List.foldl_cons, sessions, reacts.1]
      simp only [List.mem_cons]
      by_cases died : (asked, LivenessEvent.died) ∈ events <;> simp [died]
    · rw [List.foldl_cons, closings, reacts.2, same, List.append_assoc]
      congr 1
      rw [List.filterMap_cons]
      cases server.obituary? first <;> rfl

theorem pings_eq_saying (server : Server) (ids : List ConnectionId) :
    ids.foldl (·.tell · .ping) server = server.saying (ids.map fun id => ⟨id, .ping⟩) := by
  induction ids generalizing server with
  | nil => rfl
  | cons id ids ih => rw [List.foldl_cons, ih, tell_eq_saying, saying_saying]; rfl

theorem died_iff (sessions : Sessions) (now : Nanos) (id : ConnectionId) :
    (id, .died) ∈ (sessions.beat now).events ↔ ∃ session, sessions.get? id = some session ∧
      (session.presence.look sessions.config.thresholds now).1 = some .died :=
  Sessions.mem_events_iff

/-- A sweep takes out whoever it finds dead, has the connection closed, and looks at the clocks of
all others. -/
theorem swept (server : Server) (now : Nanos) :
    (∀ id, ((server.sweep now).sessions.get? id).map Session.senses =
      (server.sessions.get? id).bind fun session =>
        let looked := session.presence.look server.sessions.config.thresholds now
        if looked.1 = some .died then none else some (looked.2, session.incoming)) ∧
    (server.sweep now).closings =
      server.closings ++ (server.sessions.beat now).events.filterMap server.obituary? := by
  let pinged : Server :=
    ({ server with said := [], sessions := (server.sessions.beat now).sessions } : Server).saying
      ((server.sessions.beat now).pings.map fun id => ⟨id, .ping⟩)
  have looked (id : ConnectionId) : pinged.sessions.get? id =
      (server.sessions.get? id).map fun session =>
        { session with
          presence := (session.presence.look server.sessions.config.thresholds now).2 } :=
    Sessions.get?_beat _ _ _
  have swept :
      server.sweep now = ((server.sessions.beat now).events.foldl react pinged).handOver := by
    simp only [sweep, during, sweepCore, pings_eq_saying]
    rfl
  rcases @reacted pinged _ (nodup_events server.sessions now) (by
    rintro ⟨id, event⟩ told
    rcases Sessions.mem_events_iff.1 told with ⟨session, found, _⟩
    simp [looked, found]) with ⟨sessions, closings⟩
  have told : (server.sessions.beat now).events.filterMap pinged.obituary? =
      (server.sessions.beat now).events.filterMap server.obituary? := by
    refine List.filterMap_congr fun event member => ?_
    rcases event with ⟨id, _ | _⟩
    · rfl
    · simp only [obituary?, looked, Option.map_map]
      rfl
  refine ⟨fun id => ?_, ?_⟩
  · rw [swept, get?_handOver, sessions, Option.map_map]
    cases found : server.sessions.get? id with
    | none => simp [looked, found]
    | some session =>
      have dead := died_iff server.sessions now id
      rw [found] at dead
      simp only [Option.some.injEq, exists_eq_left'] at dead
      simp only [dead, looked, found, Option.map_some, Option.bind_some]
      split <;> rfl
  · rw [swept]
    exact closings.trans (congrArg _ told)

/-! ## What a call does to a clock -/

theorem keeps_handOver (server : Server) : server.sessions.Keeps server.handOver.sessions := by
  intro id later found
  rw [get?_handOver] at found
  rcases Option.map_eq_some_iff.1 found with ⟨session, found', rfl⟩
  exact ⟨session, found', rfl, rfl⟩

theorem keeps_act (linked : server.Linked) (frames : Except SessionError (List Wire.Frame)) :
    server.sessions.Keeps (server.act id frames).sessions := by
  cases frames with
  | error error => exact keeps_terminate server id _
  | ok frames =>
    rw [act]
    induction frames generalizing server with
    | nil => exact .refl _
    | cons frame frames ih =>
      rw [serveFrames]
      cases served : server.dispatch id frame with
      | error failure =>
        simp only [linked.server_of_failure served]
        exact keeps_terminate server id _
      | ok next =>
        rcases exists_of_dispatch served with ⟨session, request, found, _, done⟩
        rcases effect_of_request linked found done with ⟨mail, effect, _⟩
        exact effect.keeps.trans (ih ((Step.serve served).linked linked))

/-- What has become of the session of a connection in a call. -/
inductive Bears (server : Server) (id : ConnectionId) (later : Session) : Call → Prop
  /-- It has just been made. -/
  | came (missing : server.sessions.get? id = none) (now : Nanos)
      (fresh : later.senses = (.fresh now, [])) : Bears server id later (.accept id now)
  /-- It has taken in what its connection had. -/
  | heard {earlier filled : Session} {arrivals : List Arrival} {now : Nanos} {traffic : Traffic}
      (live : server.sessions.get? id = some earlier)
      (received : earlier.receive server.sessions.config arrivals now = (.ok traffic, filled))
      (senses : later.senses = filled.takeFrames.2.senses) :
      Bears server id later (.receive id arrivals now)
  /-- Its clock has been looked at. -/
  | looked {earlier : Session} {now : Nanos} (live : server.sessions.get? id = some earlier)
      (survives : (earlier.presence.look server.sessions.config.thresholds now).1 ≠ some .died)
      (senses : later.senses =
        ((earlier.presence.look server.sessions.config.thresholds now).2, earlier.incoming)) :
      Bears server id later (.sweep now)
  /-- Its connection had no part in the call. -/
  | kept {earlier : Session} {call : Call} (live : server.sessions.get? id = some earlier)
      (unheard : ∀ arrivals now, call ≠ .receive id arrivals now)
      (unlooked : ∀ now, call ≠ .sweep now) (senses : later.senses = earlier.senses) :
      Bears server id later call

theorem bears_of_keeps {call : Call} (keeps : server.sessions.Keeps next.sessions)
    (found : next.sessions.get? id = some later)
    (unheard : ∀ arrivals now, call ≠ .receive id arrivals now)
    (unlooked : ∀ now, call ≠ .sweep now) : server.Bears id later call := by
  rcases keeps id later found with ⟨earlier, live, presence, incoming⟩
  exact .kept live unheard unlooked (Prod.ext presence.symm incoming.symm)

theorem receiveCore_eq_act {filled : Session} {traffic : Traffic} {arrivals : List Arrival}
    (live : server.sessions.get? id = some session)
    (received : session.receive server.sessions.config arrivals now = (.ok traffic, filled)) :
    server.receiveCore id arrivals now =
      (server.woken id filled.takeFrames.2 traffic.woke).act id filled.takeFrames.1 := by
  simp only [receiveCore, live, received]
  cases filled.takeFrames.1 <;> rfl

theorem keeps_transmitCore (linked : server.Linked) (id : ConnectionId) (uptake : Uptake) :
    server.sessions.Keeps (server.transmitCore id uptake).2.sessions := by
  rw [transmitCore]
  cases live : server.sessions.get? id with
  | none => exact .refl _
  | some session =>
    have filed := linked.indexed.filed live
    have standing := Session.standing_transmit session uptake
    rcases Session.presence_transmit session uptake with ⟨presence, incoming⟩
    have put := Sessions.keeps_put live ((Session.standing_eq_iff.1 standing).1.trans filed)
      presence.symm incoming.symm
    dsimp only
    split
    · exact put
    · exact put.trans (keeps_terminate _ id _)

theorem bears_receiveCore (linked : server.Linked) (asked : ConnectionId) (arrivals : List Arrival)
    (now : Nanos) (found : (server.receiveCore asked arrivals now).sessions.get? id = some later) :
    server.Bears id later (.receive asked arrivals now) := by
  cases live : server.sessions.get? asked with
  | none =>
    simp only [receiveCore, live] at found
    have apart : asked ≠ id := by
      rintro rfl
      cases live.symm.trans found
    exact bears_of_keeps (.refl _) found (by simp [apart]) (by simp)
  | some session =>
    have filed := linked.indexed.filed live
    have standing := Session.standing_receive session server.sessions.config arrivals now
    rcases received : session.receive server.sessions.config arrivals now with
      ⟨error | traffic, filled⟩
    · rw [received] at standing
      simp only [receiveCore, live, received] at found
      have apart : asked ≠ id := by
        rintro rfl
        cases (get?_terminate _ asked _).symm.trans found
      rcases keeps_terminate _ asked _ id later found with ⟨earlier, found', presence, incoming⟩
      have kept := (get?_woken live filed standing false id).symm.trans found'
      rw [if_neg (Ne.symm apart)] at kept
      exact .kept kept (by simp [apart]) (by simp) (Prod.ext presence.symm incoming.symm)
    · rw [received] at standing
      have standing' : filled.takeFrames.2.standing = session.standing := standing
      rw [receiveCore_eq_act live received] at found
      rcases keeps_act (linked_woken live filed standing' linked _) _ id later found with
        ⟨earlier, found', presence, incoming⟩
      rw [get?_woken live filed standing'] at found'
      split at found'
      · next same =>
        subst same
        cases found'
        exact .heard live received (Prod.ext presence.symm incoming.symm)
      · next apart =>
        exact .kept found' (by simp [Ne.symm apart]) (by simp)
          (Prod.ext presence.symm incoming.symm)

/-- When a connection is made, it has a session of its own then, or nothing is done to any session.
-/
theorem get?_acceptCore (server : Server) (asked : ConnectionId) (now : Nanos) :
    (server.acceptCore asked now).sessions = server.sessions ∨
      server.sessions.get? asked = none ∧ ∀ other,
        (server.acceptCore asked now).sessions.get? other =
          if other = asked then some (.fresh asked now) else server.sessions.get? other := by
  unfold acceptCore
  split
  · cases found : server.sessions.get? asked with
    | some session => exact .inl (Sessions.connect_of_get? found now)
    | none => exact .inr ⟨rfl, Sessions.get?_connect found now⟩
  · exact .inl rfl

/-- Whoever is live after a call has come in it, or has been live before. -/
theorem bears_afterCall (linked : server.Linked) (call : Call)
    (found : (server.afterCall call).sessions.get? id = some later) :
    server.Bears id later call := by
  cases call with
  | accept asked now =>
    let begun : Server := { server with said := [] }
    rcases keeps_handOver (begun.acceptCore asked now) id later found with
      ⟨session, found', presence, incoming⟩
    have senses : later.senses = session.senses := Prod.ext presence.symm incoming.symm
    rcases begun.get?_acceptCore asked now with same | ⟨missing, after⟩
    · rw [same] at found'
      exact .kept found' (by simp) (by simp) senses
    · rw [after] at found'
      split at found'
      · next same =>
        subst same
        cases found'
        have new : server.sessions.get? id = none := missing
        exact .came new now senses
      · exact .kept found' (by simp) (by simp) senses
  | receive asked arrivals now =>
    rcases keeps_handOver _ id later found with ⟨session, found', presence, incoming⟩
    have senses : later.senses = session.senses := Prod.ext presence.symm incoming.symm
    have begun : ({ server with said := [] } : Server).Linked := Step.begin.linked linked
    cases bears_receiveCore begun asked arrivals now found' with
    | heard live received same => exact .heard live received (senses.trans same)
    | kept live unheard unlooked same => exact .kept live unheard unlooked (senses.trans same)
  | transmit asked uptake =>
    have begun : ({ server with said := [] } : Server).Linked := Step.begin.linked linked
    have keeps := (keeps_transmitCore begun asked uptake).trans (keeps_handOver _)
    exact bears_of_keeps keeps found (by simp) (by simp)
  | sweep now =>
    have swept := (server.swept now).1 id
    change (server.sweep now).sessions.get? id = some later at found
    rw [found, Option.map_some] at swept
    rcases Option.bind_eq_some_iff.1 swept.symm with ⟨earlier, live, looked⟩
    dsimp only at looked
    split at looked
    · cases looked
    · next survives => exact .looked live survives (Option.some.inj looked).symm
  | takeClosings => exact bears_of_keeps (.refl _) found (by simp) (by simp)

/-! ## Silence -/

/-- The time of a call, if it has one. -/
def Call.time? : Call → Option Nanos
  | .accept _ now | .receive _ _ now | .sweep now => some now
  | .transmit _ _ | .takeClosings => none

/-- Calls whose times do not go back. -/
def Timely (calls : List Call) : Prop :=
  (calls.filterMap Call.time?).Pairwise (· ≤ ·)

instance (calls : List Call) : Decidable (Timely calls) :=
  inferInstanceAs (Decidable (List.Pairwise _ _))

/-- Whether a live connection brings bytes and does not fail. -/
def brings (server : Server) (id : ConnectionId) (arrivals : List Arrival) (now : Nanos) : Bool :=
  (server.sessions.get? id).any fun session =>
    match (session.receive server.sessions.config arrivals now).1 with
    | .ok traffic => traffic.bytes ≠ 0
    | .error _ => false

/-- When something is heard of a connection in a call, because it is made or brings bytes. -/
def hears? (server : Server) (id : ConnectionId) : Call → Option Nanos
  | .accept asked now =>
    if asked = id ∧ (server.sessions.get? id).isNone then some now else none
  | .receive asked arrivals now =>
    if asked = id ∧ server.brings id arrivals now then some now else none
  | .transmit _ _ | .sweep _ | .takeClosings => none

/-- When something was last heard of a connection in some calls. -/
def lastHeard? (server : Server) (id : ConnectionId) : List Call → Option Nanos
  | [] => none
  | call :: calls => ((server.afterCall call).lastHeard? id calls).or (server.hears? id call)

/-- A server whose clocks go by what was last heard of the connections. -/
structure Heeds (server : Server) (thresholds : Thresholds)
    (heard : ConnectionId → Option Nanos) (now : Nanos) : Prop where
  linked : server.Linked
  config : server.sessions.config.thresholds = thresholds
  last : ∀ {id session}, server.sessions.get? id = some session →
    heard id = some session.presence.lastHeard
  follows : ∀ {id session}, server.sessions.get? id = some session →
    session.presence.Follows thresholds now

namespace Heeds

variable {heard : ConnectionId → Option Nanos} {call : Call} {calls : List Call}
  (heeds : server.Heeds thresholds heard early) (configured : thresholds.Configured)

include heeds configured

theorem bears (timely : ∀ time ∈ call.time?, early ≤ time) (bears : server.Bears id later call) :
    (server.hears? id call).or (heard id) = some later.presence.lastHeard ∧
      later.presence.Follows thresholds (call.time?.getD early) := by
  have presence {other : Presence × Bytes} (senses : later.senses = other) :
      later.presence = other.1 := congrArg Prod.fst senses
  cases bears with
  | came missing now fresh =>
    rw [presence fresh]
    exact ⟨by simp [hears?, missing, Presence.fresh], Presence.follows_fresh _ _⟩
  | @heard earlier filled arrivals now traffic live received senses =>
    have felt : later.presence = filled.presence := presence senses
    have brought : server.brings id arrivals now = decide (traffic.bytes ≠ 0) := by
      simp [brings, live, received]
    rw [felt, Session.presence_receive received, hears?, brought]
    by_cases nothing : traffic.bytes = 0
    · simp only [nothing, ne_eq, not_true_eq_false, decide_false, Bool.false_eq_true, and_false,
        if_false, Option.none_or, if_true]
      exact ⟨heeds.last live, (heeds.follows live).mono (timely now rfl)⟩
    · simp only [nothing, ne_eq, not_false_eq_true, decide_true, and_self, if_true,
        Option.some_or, if_false, Presence.lastHeard_touch, true_and]
      exact (heeds.follows live).touch now
  | @looked earlier now live survives senses =>
    have looked := (heeds.follows live).look configured (timely now rfl)
    rw [heeds.config] at survives senses
    rw [presence senses]
    have alive := survives ∘ looked.1.2
    exact ⟨by simp [hears?, heeds.last live], (looked.2 alive).1⟩
  | @kept earlier _ live unheard unlooked senses =>
    have unheard : server.hears? id call = none := by
      cases call with
      | accept asked now => simp [hears?, live]
      | receive asked arrivals now =>
        have apart : asked ≠ id := by
          rintro rfl
          exact unheard arrivals now rfl
        simp [hears?, apart]
      | transmit | sweep | takeClosings => rfl
    rw [unheard, Option.none_or, presence senses]
    refine ⟨heeds.last live, (heeds.follows live).mono ?_⟩
    cases time : call.time? with
    | none => exact Nat.le_refl _
    | some now => exact timely now time

theorem after (timely : ∀ time ∈ call.time?, early ≤ time) :
    (server.afterCall call).Heeds thresholds (fun id => (server.hears? id call).or (heard id))
      (call.time?.getD early) := by
  have kept := (invariant_configured _).afterCall ⟨heeds.linked, rfl⟩ call
  have bears {id : ConnectionId} {later : Session}
      (found : (server.afterCall call).sessions.get? id = some later) :=
    heeds.bears configured timely (bears_afterCall heeds.linked call found)
  exact ⟨kept.1, by rw [kept.2, heeds.config], fun found => (bears found).1,
    fun found => (bears found).2⟩

/-- After any calls, the clocks go by what was last heard in them. -/
theorem exists_run (timely : Timely calls)
    (since : ∀ time ∈ calls.filterMap Call.time?, early ≤ time) :
    ∃ latest, (latest = early ∨ latest ∈ calls.filterMap Call.time?) ∧
      (server.run calls).Heeds thresholds
        (fun id => (server.lastHeard? id calls).or (heard id)) latest := by
  induction calls generalizing server heard early with
  | nil => exact ⟨early, .inl rfl, heeds⟩
  | cons call calls ih =>
    rw [Timely, List.filterMap_cons] at timely
    rw [List.filterMap_cons] at since ⊢
    simp only [lastHeard?, Option.or_assoc]
    cases time : call.time? with
    | none =>
      simp only [time] at timely since
      have after := heeds.after configured (show ∀ now ∈ call.time?, early ≤ now by simp [time])
      rw [time] at after
      exact ih after timely since
    | some now =>
      simp only [time, List.pairwise_cons, List.forall_mem_cons] at timely since
      have after := heeds.after configured
        (show ∀ now ∈ call.time?, early ≤ now by simp [time, since.1])
      rw [time] at after
      rcases ih after timely.2 timely.1 with ⟨latest, reached, heeds'⟩
      exact ⟨latest, .inr (List.mem_cons.2 reached), heeds'⟩

/-- A sweep judges the silence alone. -/
theorem judges (passes : early ≤ now) (live : server.sessions.get? id = some session) :
    ((server.sweep now).sessions.get? id).map Session.vitals =
      thresholds.judge (now - session.presence.lastHeard) := by
  have looked := (heeds.follows live).look configured passes
  have swept := congrArg (Option.map fun senses => senses.1.vitals) ((server.swept now).1 id)
  rw [Option.map_map, live, Option.bind_some, heeds.config] at swept
  refine Eq.trans swept ?_
  dsimp only
  by_cases dead : thresholds.dead < now - session.presence.lastHeard
  · rw [if_pos (looked.1.2 dead), Thresholds.judge_eq_none_iff.2 dead]
    rfl
  · rw [if_neg (dead ∘ looked.1.1)]
    exact (looked.2 dead).2

theorem died_iff (passes : early ≤ now) :
    (id, .died) ∈ (server.sessions.beat now).events ↔ ∃ session,
      server.sessions.get? id = some session ∧
        thresholds.dead < now - session.presence.lastHeard := by
  rw [Server.died_iff, heeds.config]
  refine exists_congr fun session => and_congr_right fun live => ?_
  exact ((heeds.follows live).look configured passes).1

/-- Whoever dies in a sweep is closed once, in the order of the connections. -/
theorem exists_dead (passes : early ≤ now) :
    ∃ dead, (server.sweep now).closings = server.closings ++ dead ∧
      (dead.map Closing.connection).Pairwise (· < ·) ∧
      ∀ closing, closing ∈ dead ↔ ∃ session time,
        server.sessions.get? closing.connection = some session ∧
        heard closing.connection = some time ∧ thresholds.dead < now - time ∧
        closing.cause = .ended session.nickname? .silence := by
  refine ⟨_, (server.swept now).2, ?_, ?_⟩
  · refine List.pairwise_map.2 (List.Pairwise.filterMap _ ?_ (ordered_events _ now))
    rintro ⟨id, _ | _⟩ ⟨later, _ | _⟩ below closing told closing' told'
    · cases told
    · cases told
    · cases told'
    · rcases Option.map_eq_some_iff.1 told with ⟨_, _, rfl⟩
      rcases Option.map_eq_some_iff.1 told' with ⟨_, _, rfl⟩
      exact below
  · rintro ⟨id, cause⟩
    rw [List.mem_filterMap]
    constructor
    · rintro ⟨⟨gone, _ | _⟩, told, closes⟩
      · cases closes
      · rcases Option.map_eq_some_iff.1 closes with ⟨session, live, same⟩
        cases same
        rcases (heeds.died_iff configured passes).1 told with ⟨session', live', silent⟩
        cases Option.some.inj (live.symm.trans live')
        exact ⟨session, _, live, heeds.last live, silent, rfl⟩
    · rintro ⟨session, time, live, last, silent, rfl⟩
      cases Option.some.inj ((heeds.last live).symm.trans last)
      refine ⟨(id, .died), (heeds.died_iff configured passes).2 ⟨session, live, silent⟩, ?_⟩
      exact congrArg (Option.map _) live

end Heeds

theorem configured_validated (config : ServerConfig) : config.validated.thresholds.Configured :=
  ⟨config.usable_validated.ordered, config.validated.sleepAfter, rfl⟩

theorem heeds_start (config : ServerConfig) (deals : List Deal) :
    (start config.validated deals).Heeds config.validated.thresholds (fun _ => none) 0 := by
  refine ⟨linked_start config deals, rfl, ?_, ?_⟩
  all_goals
    intro id session found
    cases found

/-! ## Own calls -/

/-- The calls that make a connection or bring something from it. -/
def Call.concerns (id : ConnectionId) : Call → Bool
  | .accept asked _ | .receive asked _ _ => asked = id
  | .transmit _ _ | .sweep _ | .takeClosings => false

/-- What has come in from a connection and is not read yet, and when something last came in, as its
own calls alone have it. -/
def overhear (config : SessionConfig) (id : ConnectionId) (known : Option (Bytes × Nanos))
    (call : Call) : Option (Bytes × Nanos) :=
  match call with
  | .accept asked now => if asked = id then known.or (some ([], now)) else known
  | .receive asked arrivals now =>
    if asked = id then known.map fun (incoming, heard) =>
      let filled := ({ Session.fresh id heard with incoming }.receive config arrivals now).2
      (filled.takeFrames.2.incoming, filled.presence.lastHeard)
    else known
  | .transmit _ _ | .sweep _ | .takeClosings => known

/-- Nothing else about a session matters when something comes in. -/
theorem overhear_receive (session : Session) (config : SessionConfig) (id : ConnectionId)
    (arrivals : List Arrival) (now : Nanos) :
    overhear config id (some (session.incoming, session.presence.lastHeard))
        (.receive id arrivals now) =
      some ((session.receive config arrivals now).2.takeFrames.2.incoming,
        (session.receive config arrivals now).2.presence.lastHeard) := by
  simp only [overhear, if_pos, Option.map_some, Session.receive]
  split
  · rfl
  · split
    · rfl
    · simp only [Presence.lastHeard_touch]
      rfl

/-- Calls of others tell nothing of a connection. -/
theorem foldl_overhear (config : SessionConfig) (id : ConnectionId)
    (known : Option (Bytes × Nanos)) (calls : List Call) :
    calls.foldl (overhear config id) known =
      (calls.filter (Call.concerns id)).foldl (overhear config id) known := by
  rw [List.foldl_filter]
  congr
  funext known call
  cases call with
  | accept asked | receive asked =>
    by_cases own : asked = id <;> simp [overhear, Call.concerns, own]
  | transmit | sweep | takeClosings => rfl

theorem Bears.overheard {call : Call} {known : Option (Bytes × Nanos)}
    (bears : server.Bears id later call)
    (knows : ∀ session, server.sessions.get? id = some session →
      known = some (session.incoming, session.presence.lastHeard))
    (unknown : call.made? = some id → known = none) :
    overhear server.sessions.config id known call =
      some (later.incoming, later.presence.lastHeard) := by
  have parts {other : Presence × Bytes} (senses : later.senses = other) :
      some (later.incoming, later.presence.lastHeard) = some (other.2, other.1.lastHeard) := by
    rw [← senses]
    rfl
  cases bears with
  | came missing now fresh =>
    rw [parts fresh, unknown rfl]
    simp [overhear, Presence.fresh]
  | @heard earlier filled arrivals now traffic live received senses =>
    rw [parts senses, knows earlier live, overhear_receive, received]
    rfl
  | @looked earlier now live _ senses =>
    rw [parts senses, Presence.lastHeard_look]
    exact knows earlier live
  | @kept earlier _ live unheard _ senses =>
    rw [parts senses]
    refine Eq.trans ?_ (knows earlier live)
    cases call with
    | accept asked now => simp [overhear, knows earlier live]
    | receive asked arrivals now =>
      have apart : asked ≠ id := by
        rintro rfl
        exact unheard arrivals now rfl
      simp [overhear, apart]
    | transmit | sweep | takeClosings => rfl

/-- Nobody comes in a call that does not make its connection. -/
theorem missing_afterCall {call : Call} (linked : server.Linked)
    (missing : server.sessions.get? id = none) (unmade : call.made? ≠ some id) :
    (server.afterCall call).sessions.get? id = none := by
  by_contra found
  rcases Option.ne_none_iff_exists'.1 found with ⟨later, found⟩
  cases bears_afterCall linked call found with
  | came => exact unmade rfl
  | heard live | looked live | kept live => cases missing.symm.trans live

theorem overhear_none {call : Call} (config : SessionConfig) (unmade : call.made? ≠ some id) :
    overhear config id none call = none := by
  cases call with
  | accept asked now =>
    have apart : asked ≠ id := by
      rintro rfl
      exact unmade rfl
    simp [overhear, apart]
  | receive asked arrivals now => simp [overhear]
  | transmit | sweep | takeClosings => rfl

/-- As long as a connection is made only once, its own calls alone tell when something was last
heard of it. -/
theorem overheard_run (linked : server.Linked) {known : Option (Bytes × Nanos)}
    {calls : List Call} (once : (calls.filterMap Call.made?).count id ≤ 1)
    (unmade : id ∈ calls.filterMap Call.made? → server.sessions.get? id = none ∧ known = none)
    (knows : ∀ session, server.sessions.get? id = some session →
      known = some (session.incoming, session.presence.lastHeard))
    (live : (server.run calls).sessions.get? id = some session) :
    calls.foldl (overhear server.sessions.config id) known =
      some (session.incoming, session.presence.lastHeard) := by
  induction calls generalizing server known with
  | nil => exact knows session live
  | cons call calls ih =>
    have split : (call :: calls).filterMap Call.made? =
        call.made?.toList ++ calls.filterMap Call.made? := by
      rw [List.filterMap_cons]
      cases call.made? <;> rfl
    rw [split, List.count_append] at once
    rw [split, List.mem_append] at unmade
    have configured := (invariant_configured _).afterCall ⟨linked, rfl⟩ call
    rw [List.foldl_cons, ← configured.2]
    refine ih configured.1 (by omega) ?_ ?_ live
    -- A connection that is still to be made is not made in this call as well.
    · intro comes
      rcases unmade (.inr comes) with ⟨missing, unknown⟩
      have other : call.made? ≠ some id := by
        intro made
        have first : call.made?.toList.count id = 1 := by simp [made]
        have second := List.count_pos_iff.2 comes
        omega
      rw [unknown]
      exact ⟨missing_afterCall linked missing other, overhear_none _ other⟩
    · intro later found
      rw [configured.2]
      refine (bears_afterCall linked call found).overheard knows fun made => ?_
      exact (unmade (.inl (by simp [made]))).2

/-! ## The judgement -/

/-- In a run whose times do not go back, the clocks go by what was last heard. -/
theorem exists_heeds (config : ServerConfig) (deals : List Deal) {calls : List Call} {now : Nanos}
    (timely : Timely (calls ++ [.sweep now])) :
    ∃ early, early ≤ now ∧ ((start config.validated deals).run calls).Heeds
      config.validated.thresholds
      (fun id => (start config.validated deals).lastHeard? id calls) early := by
  rw [Timely, List.filterMap_append, List.pairwise_append] at timely
  rcases timely with ⟨earlier, _, before⟩
  rcases (heeds_start config deals).exists_run (configured_validated config) earlier
    (fun _ _ => Nat.zero_le _) with ⟨latest, reached, heeds⟩
  refine ⟨latest, ?_, by simpa only [Option.or_none] using heeds⟩
  rcases reached with rfl | reached
  · exact Nat.zero_le now
  · exact before latest reached now (by simp [Call.time?])

theorem count_made_own (id : ConnectionId) (calls : List Call) :
    ((calls.filter (Call.concerns id)).filterMap Call.made?).count id =
      (calls.filterMap Call.made?).count id := by
  rw [List.count_filterMap, List.count_filterMap, List.countP_filter]
  refine List.countP_congr fun call _ => ?_
  cases call <;> simp [Call.made?, Call.concerns]

/-- When something was last heard of a connection is the same in all runs in which it has had the
same calls. -/
theorem lastHeard_eq_of_own (config : ServerConfig) (deals : List Deal) {calls other : List Call}
    {session session' : Session} (once : (calls.filterMap Call.made?).count id ≤ 1)
    (own : other.filter (Call.concerns id) = calls.filter (Call.concerns id))
    (live : ((start config.validated deals).run calls).sessions.get? id = some session)
    (live' : ((start config.validated deals).run other).sessions.get? id = some session') :
    session'.presence.lastHeard = session.presence.lastHeard := by
  have known {calls : List Call} {session : Session}
      (once : (calls.filterMap Call.made?).count id ≤ 1)
      (live : ((start config.validated deals).run calls).sessions.get? id = some session) :=
    overheard_run (linked_start config deals) once (fun _ => ⟨rfl, rfl⟩)
      (fun session found => by cases found) live
  have first := known once live
  have second := known (by rwa [← count_made_own, own, count_made_own]) live'
  rw [foldl_overhear, own, ← foldl_overhear, first] at second
  exact (Prod.mk.inj (Option.some.inj second)).2.symm

/-- At the end of every run whose times do not go back, a sweep takes out exactly those that have
been silent for too long, and has each of them closed once, in the order of the connections.
Everybody else stands as the silence alone says, whatever was found in earlier sweeps: as long as a
connection is made only once, nothing but its own calls matters. -/
theorem silence_decides (config : ServerConfig) (deals : List Deal) (calls : List Call)
    (now : Nanos) (timely : Timely (calls ++ [.sweep now])) :
    let start := start config.validated deals
    let server := start.run calls
    let thresholds := config.validated.thresholds
    (∀ id, server.sessions.get? id = none → (server.sweep now).sessions.get? id = none) ∧
    (∀ id session, server.sessions.get? id = some session →
      ∃ heard, start.lastHeard? id calls = some heard ∧ heard ≤ now ∧
        ((server.sweep now).sessions.get? id).map Session.vitals =
          thresholds.judge (now - heard)) ∧
    (∃ dead, (server.sweep now).closings = server.closings ++ dead ∧
      (dead.map Closing.connection).Pairwise (· < ·) ∧
      ∀ closing, closing ∈ dead ↔ ∃ session heard,
        server.sessions.get? closing.connection = some session ∧
        start.lastHeard? closing.connection calls = some heard ∧
        thresholds.dead < now - heard ∧ closing.cause = .ended session.nickname? .silence) ∧
    ∀ id (other : List Call), (calls.filterMap Call.made?).count id ≤ 1 →
      Timely (other ++ [.sweep now]) →
      other.filter (Call.concerns id) = calls.filter (Call.concerns id) →
      (server.sessions.get? id).isSome → ((start.run other).sessions.get? id).isSome →
      (((start.run other).sweep now).sessions.get? id).map Session.vitals =
        ((server.sweep now).sessions.get? id).map Session.vitals := by
  intro start server thresholds
  have configured : thresholds.Configured := configured_validated config
  rcases exists_heeds config deals timely with ⟨early, passes, heeds⟩
  refine ⟨?_, ?_, heeds.exists_dead configured passes, ?_⟩
  · intro id missing
    exact @missing_afterCall _ _ (.sweep now) heeds.linked missing (by simp [Call.made?])
  · intro id session live
    refine ⟨_, heeds.last live, (heeds.follows live).heard.trans passes, ?_⟩
    exact heeds.judges configured passes live
  · intro id other once timely' own live live'
    rcases Option.isSome_iff_exists.1 live with ⟨session, found⟩
    rcases Option.isSome_iff_exists.1 live' with ⟨session', found'⟩
    rcases exists_heeds config deals timely' with ⟨early', passes', heeds'⟩
    rw [heeds.judges configured passes found, heeds'.judges configured passes' found',
      lastHeard_eq_of_own config deals once own found found']

/-- Bob has said nothing for a nanosecond longer than Ann, and is dead when she has missed
thirty-six periods. That both have been looked at in between makes no difference to her. -/
theorem silence_decides_of_duel :
    let server := (start ServerConfig.standard.validated []).run (duel.take 7)
    let later := (start ServerConfig.standard.validated []).run duel
    let late := Nanos.ofMillis 180000 + 5
    ⟨2, .ended (some "Bob") .silence⟩ ∈ (server.sweep late).closings ∧
      ((server.sweep late).sessions.get? 1).map Session.vitals = some (.asleep, 36) ∧
      ((later.sweep late).sessions.get? 1).map Session.vitals = some (.asleep, 36) := by
  intro server later late
  have timely : Timely (duel.take 7 ++ [.sweep late]) := by decide
  have timely' : Timely (duel ++ [.sweep late]) := by decide
  rcases silence_decides .standard [] (duel.take 7) late timely with
    ⟨_, stands, ⟨dead, closings, _, died⟩, same⟩
  have ann : (server.sessions.get? 1).isSome := by decide +kernel
  have ann' : (later.sessions.get? 1).isSome := by decide +kernel
  have bob : (server.sessions.get? 2).map Session.nickname? = some (some "Bob") := by
    decide +kernel
  have heard : (start ServerConfig.standard.validated []).lastHeard? 1 (duel.take 7) = some 5 := by
    decide +kernel
  have heard' : (start ServerConfig.standard.validated []).lastHeard? 2 (duel.take 7) = some 4 := by
    decide +kernel
  rcases Option.isSome_iff_exists.1 ann with ⟨session, live⟩
  rcases Option.map_eq_some_iff.1 bob with ⟨session', live', named⟩
  have asleep : ((server.sweep late).sessions.get? 1).map Session.vitals =
      some (.asleep, 36) := by
    rcases stands 1 session live with ⟨time, last, _, judged⟩
    cases heard.symm.trans last
    have periods : ServerConfig.standard.validated.thresholds.judge (late - 5) =
        some (.asleep, 36) := by decide +kernel
    exact judged.trans periods
  refine ⟨?_, asleep, (same 1 duel (by decide) timely' (by rfl) ann ann').trans asleep⟩
  rw [closings]
  refine List.mem_append_right _ ((died _).2 ⟨session', 4, live', heard', by decide, ?_⟩)
  rw [named]

end CardTable.Server
