import CardTable.Proofs.Server.Moments

/-!
# How a stay is told

While a player has a seat the room hears by turns that the player sleeps and is back, and at the end
that the player is gone. That the player may meanwhile have come back on another connection, and may
fall asleep on that, makes no difference.
-/

namespace CardTable

/-- The lines that tell of naps: of all that are over, and of the last one if it still lasts. -/
def naps (nickname : String) (count : Nat) (awake : Bool) : List Notice :=
  (List.replicate count [.sleep nickname, .awake nickname]).flatten ++
    if awake then [] else [.sleep nickname]

theorem naps_sleeps (nickname : String) (count : Nat) :
    naps nickname count true ++ Sign.sleeps.lines nickname = naps nickname count false := by
  simp [naps, Sign.lines]

theorem naps_wakes (nickname : String) (count : Nat) :
    naps nickname count false ++ Sign.wakes.lines nickname = naps nickname (count + 1) true := by
  simp [naps, Sign.lines, List.replicate_succ']

/-- The lines about the stay of whoever has a nickname. -/
def Notice.IsSignOf (nickname : String) : Notice → Bool
  | sleep other | awake other | dead other | leave other => other = nickname
  | _ => false

theorem Sign.filter_lines (sign : Sign) (mine nickname : String) :
    (sign.lines nickname).filter (Notice.IsSignOf mine) =
      if nickname = mine then sign.lines nickname else [] := by
  split
  · next same => cases sign <;> simp [lines, Notice.IsSignOf, same]
  · next apart => cases sign <;> simp [lines, Notice.IsSignOf, apart]

theorem filter_signs (mine : String) (lines : List Notice) :
    (signs lines).filter (Notice.IsSignOf mine) = lines.filter (Notice.IsSignOf mine) := by
  rw [signs, List.filter_filter]
  congr
  funext notice
  cases notice <;> simp [Notice.IsSignOf, Notice.IsSign]

namespace Server

variable {server next : Server} {id : ConnectionId} {player : PlayerId} {identity : Identity}
  {number : RoomId} {due due' : List (ConnectionId × LivenessEvent)}
  {sign : Option (ConnectionId × Sign)} {config : ServerConfig} {deals : List Deal}

/-! ## Seats -/

/-- The seat of a player, if the player has one. -/
def seatOf? (server : Server) (player : PlayerId) : Option (Identity × RoomId) :=
  (server.sessions.findPlayer? player).bind server.seated?

theorem seatOf?_of_seated (linked : server.Linked)
    (seat : server.seated? id = some (identity, number)) :
    server.seatOf? identity.player = some (identity, number) := by
  rw [seatOf?, (linked.sits_of_seated? seat).1.leads]
  exact seat

theorem exists_of_seatOf? (linked : server.Linked)
    (seat : server.seatOf? player = some (identity, number)) :
    ∃ id, server.seated? id = some (identity, number) ∧ identity.player = player := by
  rcases Option.bind_eq_some_iff.1 seat with ⟨id, leads, seat⟩
  exact ⟨id, seat, linked.indexed.eq_of_findPlayer? (linked.sits_of_seated? seat).1.leads leads⟩

/-- Two connections do not carry one player. -/
theorem eq_of_seated? {id' : ConnectionId} {identity' : Identity} {number' : RoomId}
    (linked : server.Linked) (seat : server.seated? id = some (identity, number))
    (seat' : server.seated? id' = some (identity', number'))
    (same : identity'.player = identity.player) : id' = id := by
  have leads := (linked.sits_of_seated? seat).1.leads
  have leads' := (linked.sits_of_seated? seat').1.leads
  rw [same, leads] at leads'
  exact (Option.some.inj leads').symm

theorem eq_of_nickname {id' : ConnectionId} {identity' : Identity} {number' : RoomId}
    (linked : server.Linked) (seat : server.seated? id = some (identity, number))
    (seat' : server.seated? id' = some (identity', number'))
    (same : identity'.nickname = identity.nickname) : id' = id := by
  have owner {id : ConnectionId} {identity : Identity} {number : RoomId}
      (seat : server.seated? id = some (identity, number)) :
      server.sessions.findName? identity.nickname = some id := by
    rcases seated?_eq_some seat with ⟨session, live, carries, _⟩
    have named : session.nickname? = some identity.nickname :=
      congrArg (Option.map Identity.nickname) carries
    exact (linked.indexed.byName _ id).2 ⟨session, live, named⟩
  have known := owner seat'
  rw [same, owner seat] at known
  exact (Option.some.inj known).symm

/-- A player keeps the seat, and with it the room and the nickname, until the room is told that the
player is gone. -/
theorem Moment.keeps_or_ends (moment : server.Moment due next due' sign) (linked : server.Linked)
    (seat : server.seatOf? player = some (identity, number)) :
    next.seatOf? player = some (identity, number) ∨
      ∃ whose ending, sign = some (whose, ending) ∧
        server.seated? whose = some (identity, number) ∧ (ending = .leaves ∨ ending = .dies) ∧
        next.seatOf? player = none := by
  rcases exists_of_seatOf? linked seat with ⟨whose, sat, rfl⟩
  have linked' := moment.linked' linked
  have keeps {other : ConnectionId} (sits : next.seated? other = some (identity, number)) :
      next.seatOf? identity.player = some (identity, number) := seatOf?_of_seated linked' sits
  rcases moment.reseats_or_same linked with ⟨id, reseats⟩ | same
  · cases reseats with
    | stays seats => exact .inl (keeps ((seats whose).trans sat))
    | comes free seats =>
      have apart : whose ≠ id := by
        rintro rfl
        cases free.symm.trans sat
      exact .inl (keeps ((seats whose apart).trans sat))
    | goes left seats =>
      by_cases own : whose = id
      · subst own
        refine .inr ⟨whose, _, rfl, sat, left, ?_⟩
        -- No other connection carries the player, since none has done so before.
        by_contra sits
        rcases Option.ne_none_iff_exists'.1 sits with ⟨⟨identity', number'⟩, sits⟩
        rcases exists_of_seatOf? linked' sits with ⟨other, sits, same⟩
        rw [seats other] at sits
        split at sits
        · cases sits
        · next apart => exact apart (eq_of_seated? linked sat sits same)
      · exact .inl (keeps ((seats whose).trans ((if_neg own).trans sat)))
    | @returns previous free asleep seats =>
      by_cases gone : whose = previous
      · subst gone
        exact .inl (keeps ((seats id).trans ((if_pos rfl).trans sat)))
      · have apart : whose ≠ id := by
          rintro rfl
          cases free.symm.trans sat
        exact .inl (keeps ((seats whose).trans ((if_neg apart).trans ((if_neg gone).trans sat))))
  · exact .inl (keeps ((same whose).trans sat))

/-- Whoever has a seat after a moment has had it before on the same connection, or the connection
has had none. -/
theorem Moment.seated_or_free (moment : server.Moment due next due' sign) (linked : server.Linked)
    (seat : next.seated? id = some (identity, number)) :
    server.seated? id = some (identity, number) ∨ server.seated? id = none := by
  rcases moment.reseats_or_same linked with ⟨asked, reseats⟩ | same
  · by_cases own : id = asked
    · subst own
      cases reseats with
      | stays seats => exact .inl ((seats id).symm.trans seat)
      | comes free | returns free => exact .inr free
      | goes left seats =>
        rw [seats, if_pos rfl] at seat
        cases seat
    · left
      cases reseats with
      | stays seats => exact (seats id).symm.trans seat
      | comes free seats => exact (seats id own).symm.trans seat
      | goes left seats => rwa [seats, if_neg own] at seat
      | returns free asleep seats =>
        rw [seats, if_neg own] at seat
        split at seat
        · cases seat
        · exact seat
  · exact .inl ((same id).symm.trans seat)

/-! ## What the neighbours believe -/

/-- What the clocks have found and nobody has been told yet is about different connections, and
whoever has been found to have fallen asleep is not awake. -/
structure Outstanding (server : Server) (due : List (ConnectionId × LivenessEvent)) : Prop where
  distinct : (due.map Prod.fst).Nodup
  asleep : ∀ id, (id, .fellAsleep) ∈ due → server.awake id = false

/-- Whether a connection is awake as far as anybody has been told. -/
def seems (server : Server) (due : List (ConnectionId × LivenessEvent)) (id : ConnectionId) :
    Bool :=
  server.awake id || decide ((id, .fellAsleep) ∈ due)

theorem seems_nil (server : Server) (id : ConnectionId) : server.seems [] id = server.awake id := by
  simp [seems]

theorem awake_of_eq {other : ConnectionId}
    (same : next.sessions.get? other = server.sessions.get? other) :
    next.awake other = server.awake other := by
  rw [awake, awake, same]

theorem awake_of_keeps {later : Session} (keeps : server.sessions.Keeps next.sessions)
    (found : next.sessions.get? id = some later) : next.awake id = server.awake id := by
  rcases keeps id later found with ⟨earlier, found', presence, _⟩
  rw [awake_of_get? found, awake_of_get? found', Session.isAwake, Session.isAwake, presence]

/-- A look at the clocks finds everybody who falls asleep. -/
theorem awake_beat (server : Server) (now : Nanos) (id : ConnectionId) :
    let beat : Server := { server with sessions := (server.sessions.beat now).sessions }
    ((id, .fellAsleep) ∈ (server.sessions.beat now).events →
      server.awake id = true ∧ beat.awake id = false) ∧
    ((∀ event, (id, event) ∉ (server.sessions.beat now).events) →
      beat.awake id = server.awake id) := by
  have looked := Sessions.get?_beat server.sessions now id
  have told (event : LivenessEvent) := @Sessions.mem_events_iff server.sessions id now event
  cases found : server.sessions.get? id with
  | none =>
    rw [found] at looked
    simp only [found] at told
    refine ⟨fun fell => ?_, fun _ => ?_⟩
    · rcases (told _).1 fell with ⟨_, missing, _⟩
      cases missing
    · exact awake_of_eq (looked.trans found.symm)
  | some session =>
    rw [found, Option.map_some] at looked
    have look := session.presence.liveness_look server.sessions.config.thresholds now
    have happened (event : LivenessEvent) : (id, event) ∈ (server.sessions.beat now).events ↔
        (session.presence.look server.sessions.config.thresholds now).1 = some event := by
      rw [told, found]
      simp only [Option.some.injEq, exists_eq_left']
      rfl
    refine ⟨fun fell => ?_, fun nothing => ?_⟩
    · rcases look.1 ((happened _).1 fell) with ⟨before, after⟩
      refine ⟨(awake_of_get? found).trans (by simp [Session.isAwake, before]), ?_⟩
      exact (awake_of_get? looked).trans (decide_eq_false (by
        intro awake
        cases awake.symm.trans after))
    · have none : (session.presence.look server.sessions.config.thresholds now).1 = none := by
        by_contra some
        rcases Option.ne_none_iff_exists'.1 some with ⟨event, some⟩
        exact nothing event ((happened event).2 some)
      rw [awake_of_get? found]
      refine (awake_of_get? looked).trans ?_
      exact congrArg (fun liveness => decide (liveness = Liveness.awake)) (look.2 none)

theorem awake_terminate (server : Server) (reason : EndReason) {other : ConnectionId}
    (apart : other ≠ id) : (server.terminate id reason).awake other = server.awake other := by
  refine awake_of_eq ?_
  rw [sessions_terminate, Sessions.get?_close, if_neg apart]

theorem awake_sleep (server : Server) (id other : ConnectionId) :
    (server.react (id, .fellAsleep)).awake other = server.awake other := by
  simp only [react, tellRoom_eq_saying]
  split <;> rfl

theorem Outstanding.after (moment : server.Moment due next due' sign)
    (outstanding : server.Outstanding due) : next.Outstanding due' := by
  have nothing (next : Server) : next.Outstanding [] := ⟨List.nodup_nil, by simp⟩
  cases moment with
  | finish | collect | accept | drain | fill | read | serve | terminate =>
    exact nothing _
  | beat now => exact ⟨nodup_events _ now, fun id fell => ((awake_beat server now id).1 fell).2⟩
  | ping id => exact ⟨outstanding.distinct, outstanding.asleep⟩
  | sleep id =>
    refine ⟨(List.nodup_cons.1 outstanding.distinct).2, fun other fell => ?_⟩
    rw [awake_sleep]
    exact outstanding.asleep other (List.mem_cons_of_mem _ fell)
  | die id =>
    refine ⟨(List.nodup_cons.1 outstanding.distinct).2, fun other fell => ?_⟩
    by_cases gone : other = id
    · simp [Server.awake, gone, react, get?_terminate]
    · exact (awake_terminate server .silence gone).trans
        (outstanding.asleep other (List.mem_cons_of_mem _ fell))

/-- How a seat that is taken after a moment has come through it. -/
inductive Lasts (server : Server) (due : List (ConnectionId × LivenessEvent)) (next : Server)
    (due' : List (ConnectionId × LivenessEvent)) (sign : Option (ConnectionId × Sign))
    (id : ConnectionId) (identity : Identity) (number : RoomId) : Prop
  /-- Nothing is told of it. -/
  | still (seat : server.seated? id = some (identity, number))
      (untold : ∀ ending, sign ≠ some (id, ending))
      (same : (id, .died) ∈ due' ∨ (id, .died) ∉ due ∧ next.seems due' id = server.seems due id)
  /-- It has just been taken. -/
  | taken (unseated : server.seatOf? identity.player = none) (untold : sign = none)
      (awake : next.seems due' id = true)
  /-- It is told to sleep, and nobody has known that. -/
  | slept (seat : server.seated? id = some (identity, number)) (told : sign = some (id, .sleeps))
      (before : (id, .died) ∉ due ∧ server.seems due id = true)
      (after : next.seems due' id = false)
  /-- It is told to be back, perhaps on another connection, and everybody has known of its sleep. -/
  | woke {earlier : ConnectionId} (seat : server.seated? earlier = some (identity, number))
      (told : sign = some (earlier, .wakes))
      (before : (earlier, .died) ∉ due ∧ server.seems due earlier = false)
      (after : next.seems due' id = true)

namespace Lasts

/-- Nothing is told of a connection that nothing happens to. -/
theorem of_same (seat : next.seated? id = some (identity, number))
    (same : next.seated? id = server.seated? id) (untold : ∀ ending, sign ≠ some (id, ending))
    (awake : next.awake id = server.awake id) :
    server.Lasts [] next [] sign id identity number :=
  .still (same.symm.trans seat) untold (.inr ⟨by simp, by rw [seems_nil, seems_nil, awake]⟩)

end Lasts

/-- How every seat comes through a request whose sender is awake. -/
theorem Reseats.lasts {asked : ConnectionId} (reseats : server.Reseats asked next sign)
    (linked : server.Linked) (linked' : next.Linked)
    (keeps : server.sessions.Keeps next.sessions) (awake : server.awake asked = true)
    (seat : next.seated? id = some (identity, number)) :
    server.Lasts [] next [] sign id identity number := by
  rcases seated?_eq_some seat with ⟨later, found, _⟩
  have wakefulness := awake_of_keeps keeps found
  cases reseats with
  | stays seats => exact .of_same seat (seats id) (by simp) wakefulness
  | comes free seats =>
    by_cases own : id = asked
    · subst own
      refine .taken ?_ rfl (by rw [seems_nil, wakefulness, awake])
      by_contra sat
      rcases Option.ne_none_iff_exists'.1 sat with ⟨⟨identity', number'⟩, sat⟩
      rcases exists_of_seatOf? linked sat with ⟨whose, sat, same⟩
      have apart : whose ≠ id := by
        rintro rfl
        cases free.symm.trans sat
      exact apart (eq_of_seated? linked' seat ((seats whose apart).trans sat) same)
    · exact .of_same seat (seats id own) (by simp) wakefulness
  | goes left seats =>
    have same := seats id
    split at same
    · cases same.symm.trans seat
    · next apart => exact .of_same seat same (by simp [Ne.symm apart]) wakefulness
  | @returns previous free asleep seats =>
    have same := seats id
    split at same
    · next own =>
      subst own
      exact .woke (same.symm.trans seat) rfl ⟨by simp, by rw [seems_nil, asleep]⟩
        (by rw [seems_nil, wakefulness, awake])
    · split at same
      · cases same.symm.trans seat
      · next apart => exact .of_same seat same (by simp [Ne.symm apart]) wakefulness

theorem awake_put {session changed : Session} {whose : ConnectionId}
    (live : server.sessions.get? whose = some session) (filed : changed.id = whose)
    (sessions : next.sessions = server.sessions.put changed) (asked : ConnectionId) :
    next.awake asked = if asked = whose then changed.isAwake else server.awake asked := by
  rw [Server.awake, sessions, Sessions.get?_put_of_get? live filed]
  split <;> rfl

/-- What the clocks have found of one connection does not matter for another one. -/
theorem seems_of_tail {asked : ConnectionId} {event : LivenessEvent} (apart : id ≠ asked)
    (awake : next.awake id = server.awake id) (due : List (ConnectionId × LivenessEvent)) :
    (id, .died) ∈ due ∨ (id, .died) ∉ (asked, event) :: due ∧
      next.seems due id = server.seems ((asked, event) :: due) id := by
  by_cases died : (id, .died) ∈ due
  · exact .inl died
  · exact .inr ⟨by simp [died, apart], by simp [seems, awake, apart]⟩

namespace Lasts

/-- Whoever takes in what its connection has is told to be back, if it has slept. -/
theorem of_read {asked : ConnectionId} {session filled : Session} {arrivals : List Arrival}
    {now : Nanos} {traffic : Traffic} (linked : server.Linked)
    (live : server.sessions.get? asked = some session)
    (received : session.receive server.sessions.config arrivals now = (.ok traffic, filled))
    (seat : (server.woken asked filled.takeFrames.2 traffic.woke).seated? id =
      some (identity, number)) :
    server.Lasts [] (server.woken asked filled.takeFrames.2 traffic.woke) []
      (if traffic.woke then some (asked, .wakes) else none) id identity number := by
  have filed := linked.indexed.filed live
  have standing := standing_taken received
  have sessions := sessions_woken server asked filled.takeFrames.2 traffic.woke
  have alike := Sessions.alike_put live filed standing
  rw [← sessions] at alike
  have same := seated?_of_alike alike id
  have awake := awake_put live ((Session.standing_eq_iff.1 standing).1.trans filed) sessions id
  have wakes := Session.isAwake_receive received
  have own : filled.takeFrames.2.isAwake = (traffic.woke || session.isAwake) := wakes.1
  by_cases woke : traffic.woke = true
  · rw [if_pos woke]
    by_cases here : id = asked
    · subst here
      refine .woke (same.symm.trans seat) rfl ⟨by simp, ?_⟩ ?_
      · rw [seems_nil, awake_of_get? live, wakes.2 woke]
      · rw [seems_nil, awake, if_pos rfl, own, woke, Bool.true_or]
    · exact .of_same seat same (by simp [Ne.symm here]) (awake.trans (if_neg here))
  · have quiet : traffic.woke = false := by simpa using woke
    rw [if_neg woke]
    refine .of_same seat same (by simp) ?_
    rw [awake]
    split
    · next here => rw [own, here, awake_of_get? live, quiet, Bool.false_or]
    · rfl

/-- When the clocks are looked at, nobody knows yet what has become of the seat. -/
theorem of_beat (now : Nanos)
    (seat : ({ server with sessions := (server.sessions.beat now).sessions } : Server).seated? id =
      some (identity, number)) :
    server.Lasts [] { server with sessions := (server.sessions.beat now).sessions }
      (server.sessions.beat now).events none id identity number := by
  let beat : Server := { server with sessions := (server.sessions.beat now).sessions }
  have seats := @seated?_of_alike server beat (Sessions.alike_beat server.sessions now) id
  have looked := awake_beat server now id
  refine .still (seats.symm.trans seat) (by simp) ?_
  by_cases died : (id, .died) ∈ (server.sessions.beat now).events
  · exact .inl died
  · refine .inr ⟨by simp, ?_⟩
    rw [seems_nil, seems]
    by_cases fell : (id, .fellAsleep) ∈ (server.sessions.beat now).events
    · rw [decide_eq_true fell, Bool.or_true, (looked.1 fell).1]
    · have nothing (event : LivenessEvent) : (id, event) ∉ (server.sessions.beat now).events := by
        cases event <;> assumption
      rw [decide_eq_false fell, Bool.or_false]
      exact looked.2 nothing

/-- Whom the clocks have found to sleep is told to, once. -/
theorem of_sleep {asked : ConnectionId}
    (outstanding : server.Outstanding ((asked, .fellAsleep) :: due))
    (seat : (server.react (asked, .fellAsleep)).seated? id = some (identity, number)) :
    server.Lasts ((asked, .fellAsleep) :: due) (server.react (asked, .fellAsleep)) due
      (some (asked, .sleeps)) id identity number := by
  have same : server.seated? id = some (identity, number) := by
    rw [← seat]
    simp only [react, tellRoom_eq_saying]
    split <;> rfl
  have awake := awake_sleep server asked id
  by_cases own : id = asked
  · subst own
    have once := (List.nodup_cons.1 outstanding.distinct).1
    have absent (event : LivenessEvent) : (id, event) ∉ due :=
      fun member => once (List.mem_map.2 ⟨_, member, rfl⟩)
    have dozes := outstanding.asleep id List.mem_cons_self
    exact .slept same rfl ⟨by simp [absent], by simp [seems]⟩
      (by simp [seems, awake, dozes, absent])
  · exact .still same (by simp [Ne.symm own]) (seems_of_tail own awake due)

end Lasts

/-- How every seat comes through a moment. -/
theorem Moment.lasts (moment : server.Moment due next due' sign) (linked : server.Linked)
    (outstanding : server.Outstanding due) (seat : next.seated? id = some (identity, number)) :
    server.Lasts due next due' sign id identity number := by
  cases moment with
  | collect => exact .of_same seat rfl (by simp) rfl
  | finish =>
    have seats := @seated?_of_alike server server.handOver
      (Sessions.alike_deliver server.sessions server.mail) id
    exact .of_same seat seats (by simp) (congrFun (awake_handOver server) id)
  | accept asked now =>
    have same : (server.acceptCore asked now).sessions.get? id = server.sessions.get? id := by
      rcases server.get?_acceptCore asked now with same | ⟨_, after⟩
      · rw [same]
      · rw [seated?_eq, after] at seat
        rw [after]
        split at seat
        · cases seat
        · next apart => rw [if_neg apart]
    exact .of_same seat (seated?_congr same) (by simp) (awake_of_eq same)
  | @drain asked session live uptake =>
    have filed := linked.indexed.filed live
    have standing := Session.standing_transmit session uptake
    rcases Session.presence_transmit session uptake with ⟨presence, incoming⟩
    have keeps := Sessions.keeps_put live ((Session.standing_eq_iff.1 standing).1.trans filed)
      presence.symm incoming.symm
    rcases seated?_eq_some seat with ⟨later, found, _⟩
    exact .of_same seat (seated?_of_alike (Sessions.alike_put live filed standing) id) (by simp)
      (awake_of_keeps keeps found)
  | @fill asked session filled arrivals now error live received =>
    have filed := linked.indexed.filed live
    have standing := standing_received received
    have awake := @awake_put server { server with sessions := server.sessions.put filled } _ _ _
      live ((Session.standing_eq_iff.1 standing).1.trans filed) rfl id
    refine .of_same seat (seated?_of_alike (Sessions.alike_put live filed standing) id) (by simp) ?_
    rw [awake]
    split
    · next own =>
      rw [own, awake_of_get? live, Session.isAwake, Session.presence_of_error received]
      rfl
    · rfl
  | read live received => exact .of_read linked live received seat
  | serve awake read served =>
    rcases exists_of_dispatch served with ⟨session, request, live, read', done⟩
    cases Except.ok.inj (read.symm.trans read')
    rcases effect_of_request linked live done with ⟨_, effect, _⟩
    exact (signals_of_request linked live done).1.lasts linked ((Step.serve served).linked linked)
      effect.keeps awake seat
  | terminate asked reason =>
    rw [seated?_terminate] at seat
    split at seat
    · cases seat
    · next apart =>
      exact .still seat (by simp [Ne.symm apart])
        (.inr ⟨by simp, by rw [seems_nil, seems_nil, awake_terminate server reason apart]⟩)
  | beat now => exact .of_beat now seat
  | ping asked =>
    refine .still seat (by simp) ?_
    by_cases died : (id, .died) ∈ due
    · exact .inl died
    · exact .inr ⟨died, rfl⟩
  | sleep asked => exact .of_sleep outstanding seat
  | die asked =>
    simp only [react] at seat ⊢
    rw [seated?_terminate] at seat
    split at seat
    · cases seat
    · next apart =>
      exact .still seat (by simp [Ne.symm apart])
        (seems_of_tail apart (awake_terminate server .silence apart) due')

/-! ## What is told of a player -/

/-- What is told of a player in a moment. -/
def noted (server : Server) (sign : Option (ConnectionId × Sign)) (player : PlayerId) :
    List Notice :=
  match sign with
  | none => []
  | some (id, sign) =>
    match server.seated? id with
    | some (identity, _) => if identity.player = player then sign.lines identity.nickname else []
    | none => []

theorem noted_of_seated (seat : server.seated? id = some (identity, number)) (ending : Sign) :
    server.noted (some (id, ending)) identity.player = ending.lines identity.nickname := by
  simp [noted, seat]

/-- Nothing is noted of a player when somebody else is concerned. -/
theorem noted_of_untold (linked : server.Linked)
    (seat : server.seated? id = some (identity, number))
    (untold : ∀ ending, sign ≠ some (id, ending)) : server.noted sign identity.player = [] := by
  rcases sign with _ | ⟨whose, ending⟩
  · rfl
  · cases seat' : server.seated? whose with
    | none => simp [noted, seat']
    | some seated =>
      have other : seated.1.player ≠ identity.player := by
        intro same
        exact untold ending (by rw [eq_of_seated? linked seat seat' same])
      simp [noted, seat', other]

/-- What a connection is told of somebody in a seat: all that is noted, if it sits beside. -/
theorem filter_told (linked : server.Linked) (seat : server.seated? id = some (identity, number))
    (sign : Option (ConnectionId × Sign)) (other : ConnectionId) :
    (server.told sign other).filter (Notice.IsSignOf identity.nickname) =
      if server.IsBeside other identity number then server.noted sign identity.player else [] := by
  by_cases own : ∃ ending, sign = some (id, ending)
  · rcases own with ⟨ending, rfl⟩
    rw [told_of_seated seat, noted_of_seated seat]
    split
    · rw [Sign.filter_lines, if_pos rfl]
    · rfl
  · rw [noted_of_untold linked seat (not_exists.1 own), ite_self]
    rcases sign with _ | ⟨whose, ending⟩
    · rfl
    · cases seat' : server.seated? whose with
      | none => rw [told_of_unseated seat', List.filter_nil]
      | some seated =>
        have other : seated.1.nickname ≠ identity.nickname := by
          intro same
          exact own ⟨ending, by rw [eq_of_nickname linked seat seat' same]⟩
        rw [told_of_seated seat']
        split
        · rw [Sign.filter_lines, if_neg other]
        · rfl

namespace Moment

variable (moment : server.Moment due next due' sign) (linked : server.Linked)

include moment linked

/-- Of somebody in a seat, those who sit beside hear what is noted, and nobody else hears a line. -/
theorem filter_news (seat : server.seated? id = some (identity, number)) (other : ConnectionId) :
    (server.news next other).filter (Notice.IsSignOf identity.nickname) =
      if server.IsBeside other identity number then server.noted sign identity.player else [] := by
  rw [← filter_signs, moment.signs_eq linked, filter_told linked seat]

/-- Nobody in a seat is told of the own stay. -/
theorem filter_news_own (seat : server.seated? id = some (identity, number) ∨
    next.seated? id = some (identity, number)) :
    (server.news next id).filter (Notice.IsSignOf identity.nickname) = [] := by
  rcases seat.elim .inl (moment.seated_or_free linked) with seat | free
  · rw [moment.filter_news linked seat, isBeside_self seat]
    rfl
  · rw [← filter_signs, moment.signs_eq linked, told_of_alone free]
    rfl

end Moment

/-! ## Diaries -/

/-- A server in the midst of its calls, what its clocks have found and nobody has been told yet,
what every connection has heard of anybody's stay, and what has been told of every player since the
present seat was taken. -/
structure Diary where
  server : Server
  due : List (ConnectionId × LivenessEvent)
  heard : ConnectionId → List Notice
  signs : PlayerId → List Notice

namespace Diary

variable {diary : Diary}

def start (config : ServerConfig) (deals : List Deal) : Diary where
  server := .start config.validated deals
  due := []
  heard _ := []
  signs _ := []

/-- The diary when a call begins. -/
def begun (diary : Diary) : Diary :=
  { diary with server := { diary.server with said := [] } }

/-- The diary after a moment. For a player who has had no seat before, it is begun anew. -/
def after (diary : Diary) (next : Server) (due : List (ConnectionId × LivenessEvent))
    (sign : Option (ConnectionId × Sign)) : Diary where
  server := next
  due := due
  heard id := diary.heard id ++ CardTable.signs (diary.server.news next id)
  signs player :=
    (if (diary.server.seatOf? player).isSome then diary.signs player else []) ++
      diary.server.noted sign player

/-- A diary that has been kept from the start on. -/
inductive Kept (config : ServerConfig) (deals : List Deal) : Diary → Prop
  | start : Kept config deals (start config deals)
  | begin {diary : Diary} (kept : Kept config deals diary) : Kept config deals diary.begun
  | moment {diary : Diary} {next : Server} {due : List (ConnectionId × LivenessEvent)}
      {sign : Option (ConnectionId × Sign)} (kept : Kept config deals diary)
      (moment : diary.server.Moment diary.due next due sign) :
      Kept config deals (diary.after next due sign)

/-- What has been told of whoever has a seat is naps, and it tells whether the connection is awake,
as far as that has been told. -/
def Tells (diary : Diary) (id : ConnectionId) (identity : Identity) : Prop :=
  ∃ count awake, diary.signs identity.player = naps identity.nickname count awake ∧
    ((id, .died) ∈ diary.due ∨ awake = diary.server.seems diary.due id)

/-- A diary that is right. -/
structure Sound (diary : Diary) : Prop where
  linked : diary.server.Linked
  outstanding : diary.server.Outstanding diary.due
  tells : ∀ {id identity number}, diary.server.seated? id = some (identity, number) →
    diary.Tells id identity

theorem sound_start (config : ServerConfig) (deals : List Deal) : (start config deals).Sound := by
  refine ⟨linked_start config deals, ⟨List.nodup_nil, fun _ missing => by cases missing⟩, ?_⟩
  intro id identity number seat
  cases seat

theorem signs_after (linked : diary.server.Linked)
    (seat : diary.server.seated? id = some (identity, number)) :
    (diary.after next due sign).signs identity.player =
      diary.signs identity.player ++ diary.server.noted sign identity.player := by
  simp only [after, seatOf?_of_seated linked seat, Option.isSome_some, if_true]

theorem Sound.after (sound : diary.Sound) (moment : diary.server.Moment diary.due next due sign) :
    (diary.after next due sign).Sound := by
  rcases sound with ⟨linked, outstanding, tells⟩
  refine ⟨moment.linked' linked, outstanding.after moment, ?_⟩
  intro id identity number seat
  change next.seated? id = some (identity, number) at seat
  cases moment.lasts linked outstanding seat with
  | still seat' untold same =>
    rcases tells seat' with ⟨count, awake, told, known⟩
    refine ⟨count, awake, ?_, ?_⟩
    · rw [signs_after linked seat', noted_of_untold linked seat' untold, List.append_nil, told]
    · rcases same with died | ⟨alive, same⟩
      · exact .inl died
      · exact .inr ((known.resolve_left alive).trans same.symm)
  | taken unseated untold awake =>
    refine ⟨0, true, ?_, .inr awake.symm⟩
    subst untold
    simp [Diary.after, unseated, noted, naps]
  -- So far the last nap that was told of is over, and a new one begins.
  | slept seat' told before after =>
    rcases tells seat' with ⟨count, awake, naps, known⟩
    have was := (known.resolve_left before.1).trans before.2
    subst was
    refine ⟨count, false, ?_, .inr after.symm⟩
    rw [signs_after linked seat', told, noted_of_seated seat', naps, naps_sleeps]
  -- The last nap that was told of is over now, whichever connection it was on.
  | @woke earlier seat' told before after =>
    rcases tells seat' with ⟨count, awake, naps, known⟩
    have was := (known.resolve_left before.1).trans before.2
    subst was
    refine ⟨count + 1, true, ?_, .inr after.symm⟩
    rw [signs_after linked seat', told, noted_of_seated seat', naps, naps_wakes]

theorem Sound.begun (sound : diary.Sound) : diary.begun.Sound where
  linked := Step.begin.linked sound.linked
  outstanding := ⟨sound.outstanding.distinct, sound.outstanding.asleep⟩
  tells := sound.tells

theorem Kept.sound (kept : Kept config deals diary) : diary.Sound := by
  induction kept with
  | start => exact sound_start config deals
  | begin _ sound => exact sound.begun
  | moment _ moment sound => exact sound.after moment

/-- What a moment does to whoever has a seat, and what is told of it. -/
structure Announces (diary : Diary) (next : Server) (due : List (ConnectionId × LivenessEvent))
    (sign : Option (ConnectionId × Sign)) : Prop where
  /-- What is put down of a player in a seat is heard by all who sit beside, and by nobody else. -/
  beside : ∀ {id identity number}, diary.server.seated? id = some (identity, number) →
    ∀ other, (diary.server.news next other).filter (Notice.IsSignOf identity.nickname) =
      if diary.server.IsBeside other identity number
      then diary.server.noted sign identity.player else []
  /-- Nobody is told of the own stay. -/
  own : ∀ {id identity number}, diary.server.seated? id = some (identity, number) ∨
    next.seated? id = some (identity, number) →
      (diary.server.news next id).filter (Notice.IsSignOf identity.nickname) = []
  /-- A player keeps the seat, or loses it and what is told of the stay is complete. If the session
  is still there, it ends with a departure, and if not, with a death. -/
  seats : ∀ {player identity number}, diary.server.seatOf? player = some (identity, number) →
    next.seatOf? player = some (identity, number) ∨
    next.seatOf? player = none ∧ ∃ id ending count awake, sign = some (id, ending) ∧
      diary.server.seated? id = some (identity, number) ∧
      (ending = .leaves ∧ (next.sessions.get? id).isSome ∨
        ending = .dies ∧ next.sessions.get? id = none) ∧
      (diary.after next due sign).signs player =
        naps identity.nickname count awake ++ ending.lines identity.nickname
  /-- Whoever hears of a death hears of the departure next, and the session is gone. -/
  deaths : ∀ {other nickname}, .dead nickname ∈ diary.server.news next other →
    (∃ later, CardTable.signs later = [] ∧
      diary.server.news next other = .dead nickname :: .leave nickname :: later) ∧
    ∃ id identity number, diary.server.seated? id = some (identity, number) ∧
      identity.nickname = nickname ∧ next.sessions.get? id = none

theorem Sound.announces (sound : diary.Sound)
    (moment : diary.server.Moment diary.due next due sign) : diary.Announces next due sign := by
  rcases sound with ⟨linked, _, tells⟩
  refine ⟨moment.filter_news linked, moment.filter_news_own linked, ?_, moment.mourned linked⟩
  intro player identity number seat
  rcases moment.keeps_or_ends linked seat with keeps | ⟨id, ending, rfl, sat, ends, empty⟩
  · exact .inl keeps
  · rcases exists_of_seatOf? linked seat with ⟨_, _, rfl⟩
    rcases tells sat with ⟨count, awake, told, _⟩
    refine .inr ⟨empty, id, ending, count, awake, rfl, sat, ?_, ?_⟩
    · rcases ends with rfl | rfl
      · exact .inl ⟨rfl, moment.isSome_of_leaves linked rfl⟩
      · rcases moment.exists_terminate_of_dies rfl with ⟨reason, rfl⟩
        exact .inr ⟨rfl, get?_terminate _ _ _⟩
    · rw [signs_after linked sat, told, noted_of_seated sat]

/-! ## Runs -/

/-- A diary has been kept that has come to a server, with some things that are still to be told, and
in the course of a call before which every connection has heard something. -/
def Reaches (config : ServerConfig) (deals : List Deal) (before : ConnectionId → List Notice)
    (server : Server) (due : List (ConnectionId × LivenessEvent)) : Prop :=
  ∃ diary, Kept config deals diary ∧ diary.server = server ∧ diary.due = due ∧
    ∀ id, diary.heard id = before id ++ CardTable.signs (server.lines id)

namespace Reaches

variable {before : ConnectionId → List Notice}

theorem linked (reaches : Reaches config deals before server due) : server.Linked := by
  rcases reaches with ⟨diary, kept, rfl, rfl, _⟩
  exact kept.sound.linked

theorem moment (reaches : Reaches config deals before server due)
    (moment : server.Moment due next due' sign) : Reaches config deals before next due' := by
  rcases reaches with ⟨diary, kept, rfl, rfl, heard⟩
  refine ⟨_, .moment kept moment, rfl, rfl, fun id => ?_⟩
  rcases moment.exists_said kept.sound.linked with ⟨mail, said⟩
  change diary.heard id ++ CardTable.signs (diary.server.news next id) = _
  rw [lines_of_said said, news_of_said said, signs_append, heard, List.append_assoc]

/-- Frames are served one after the other, all of them while their sender is awake. -/
theorem serveFrames (reaches : Reaches config deals before server []) {frames : List Wire.Frame}
    (idle : frames = [] ∨ server.awake id = true) :
    Reaches config deals before (server.serveFrames id frames) [] := by
  induction frames generalizing server with
  | nil => exact reaches
  | cons frame frames ih =>
    have awake := idle.resolve_left (by simp)
    have linked := reaches.linked
    rw [Server.serveFrames]
    cases served : server.dispatch id frame with
    | error failure =>
      simp only [linked.server_of_failure served]
      exact reaches.moment (.terminate id _)
    | ok next =>
      rcases exists_of_dispatch served with ⟨session, request, live, read, done⟩
      rcases effect_of_request linked live done with ⟨_, effect, _⟩
      rcases Option.isSome_iff_exists.1 (isSome_of_served linked served) with ⟨later, found⟩
      have still := (awake_of_keeps effect.keeps found).trans awake
      exact ih (reaches.moment (.serve awake read served)) (.inr still)

theorem receiveCore (reaches : Reaches config deals before server [])
    (rested : server.Rested server.awake) (id : ConnectionId) (arrivals : List Arrival)
    (now : Nanos) : Reaches config deals before (server.receiveCore id arrivals now) [] := by
  cases live : server.sessions.get? id with
  | none =>
    simp only [Server.receiveCore, live]
    exact reaches
  | some session =>
    rcases received : session.receive server.sessions.config arrivals now with
      ⟨error | traffic, filled⟩
    · simp only [Server.receiveCore, live, received]
      exact (reaches.moment (.fill live received)).moment (.terminate id _)
    · have filed := reaches.linked.indexed.filed live
      have read := reaches.moment (.read live received)
      rw [receiveCore_eq_act live received]
      cases taken : filled.takeFrames.1 with
      | error error => exact read.moment (.terminate id _)
      | ok frames =>
        -- Nothing is left to be read from before, so frames have come in just now.
        rcases (rested live).settled.receive received (Prod.ext taken rfl) with ⟨_, idle⟩
        have standing := standing_taken received
        have awake := awake_put live ((Session.standing_eq_iff.1 standing).1.trans filed)
          (sessions_woken server id filled.takeFrames.2 traffic.woke) id
        rw [if_pos rfl] at awake
        exact read.serveFrames (idle.imp_right awake.trans)

theorem transmitCore (reaches : Reaches config deals before server []) (id : ConnectionId)
    (uptake : Uptake) : Reaches config deals before (server.transmitCore id uptake).2 [] := by
  rw [Server.transmitCore]
  cases live : server.sessions.get? id with
  | none => exact reaches
  | some session =>
    have drained := reaches.moment (.drain live uptake)
    dsimp only
    split
    · exact drained
    · exact drained.moment (.terminate id _)

theorem pings (reaches : Reaches config deals before server due) (ids : List ConnectionId) :
    Reaches config deals before (ids.foldl (·.tell · .ping) server) due := by
  induction ids generalizing server with
  | nil => exact reaches
  | cons id ids ih => exact ih (reaches.moment (.ping id due))

theorem reactions (reaches : Reaches config deals before server due) :
    Reaches config deals before (due.foldl react server) [] := by
  induction due generalizing server with
  | nil => exact reaches
  | cons first due ih =>
    rcases first with ⟨id, _ | _⟩
    · exact ih (reaches.moment (.sleep id due))
    · exact ih (reaches.moment (.die id due))

end Reaches

/-- A diary that has been kept up to a call can be kept over it, and has then what is queued in the
call. -/
theorem Kept.afterCall (kept : Kept config deals diary) (done : diary.due = [])
    (rested : diary.server.Rested diary.server.awake) (call : Call) :
    ∃ later, Kept config deals later ∧ later.server = diary.server.afterCall call ∧
      later.due = [] ∧ ∀ id, later.heard id =
        diary.heard id ++ CardTable.signs ((diary.server.afterCall call).queued call id) := by
  have begun : Reaches config deals diary.heard { diary.server with said := [] } [] :=
    ⟨diary.begun, .begin kept, rfl, done, fun id => (List.append_nil _).symm⟩
  cases call with
  | accept id now => exact (begun.moment (.accept id now)).moment .finish
  | receive id arrivals now => exact (begun.receiveCore rested id arrivals now).moment .finish
  | transmit id uptake => exact (begun.transmitCore id uptake).moment .finish
  | sweep now => exact ((begun.moment (.beat now)).pings _).reactions.moment .finish
  | takeClosings =>
    have collected : diary.server.Moment diary.due diary.server.takeClosings.2 [] none := by
      rw [done]
      exact .collect
    refine ⟨_, .moment kept collected, rfl, rfl, fun id => ?_⟩
    exact congrArg (fun lines => diary.heard id ++ CardTable.signs lines) (news_of_same rfl id)

end Diary

/-- The lines that are queued for a connection in several calls. -/
def queuedOver (server : Server) (calls : List Call) (id : ConnectionId) : List Notice :=
  match calls with
  | [] => []
  | call :: calls =>
    let next := server.afterCall call
    next.queued call id ++ next.queuedOver calls id

theorem queuedOver_concat (server : Server) (calls : List Call) (call : Call) (id : ConnectionId) :
    server.queuedOver (calls ++ [call]) id =
      server.queuedOver calls id ++ ((server.run calls).afterCall call).queued call id := by
  induction calls generalizing server with
  | nil => exact List.append_nil _
  | cons first calls ih =>
    rw [List.cons_append, queuedOver, queuedOver, ih, List.append_assoc]
    rfl

/-- A diary can be kept over every run. After each of its calls everything has been told, and what
the connections have heard is what has been queued for them. -/
theorem exists_diary_of_run (config : ServerConfig) (deals : List Deal) (calls : List Call) :
    ∃ diary, Diary.Kept config deals diary ∧
      diary.server = (start config.validated deals).run calls ∧ diary.due = [] ∧
      ∀ id, diary.heard id = signs ((start config.validated deals).queuedOver calls id) := by
  induction calls using List.reverseRecOn with
  | nil => exact ⟨_, .start, rfl, rfl, fun _ => rfl⟩
  | append_singleton calls call ih =>
    rcases ih with ⟨diary, kept, same, done, heard⟩
    have coherent := (Record.coherent_start config deals).run calls
    have rested := coherent.rested
    rw [Record.server_run] at rested
    change ((start config.validated deals).run calls).Rested
      ((start config.validated deals).run calls).awake at rested
    rw [← same] at rested
    rcases kept.afterCall done rested call with ⟨later, kept, same', done', heard'⟩
    refine ⟨later, kept, ?_, done', fun id => ?_⟩
    · rw [same', same, run, run, List.foldl_append]
      rfl
    · rw [heard', heard, queuedOver_concat, signs_append, same]

/-- A diary can be kept over every run, and has all that is queued in it about anybody's stay. At
any time, what has been told of a player since the seat was taken is that the player sleeps and is
back by turns, and once nothing is left to be told, it ends with a sleep just when the connection
sleeps. What happens next is heard by all who sit beside the player and by nobody else, least of all
by the player; and when the seat is lost, the room hears at last that the player leaves, and that
the player is dead just before, if the session has been ended. -/
theorem stays_told (config : ServerConfig) (deals : List Deal) :
    (∀ calls, ∃ diary, Diary.Kept config deals diary ∧
      diary.server = (start config.validated deals).run calls ∧ diary.due = [] ∧
      ∀ id, diary.heard id = signs ((start config.validated deals).queuedOver calls id)) ∧
    ∀ diary, Diary.Kept config deals diary →
      (∀ id identity number, diary.server.seated? id = some (identity, number) →
        ∃ count awake, diary.signs identity.player = naps identity.nickname count awake ∧
          (diary.due = [] → awake = diary.server.awake id)) ∧
      ∀ next due sign, diary.server.Moment diary.due next due sign →
        diary.Announces next due sign := by
  refine ⟨exists_diary_of_run config deals, ?_⟩
  intro diary kept
  refine ⟨?_, fun next due sign => kept.sound.announces⟩
  intro id identity number seat
  rcases kept.sound.tells seat with ⟨count, awake, told, known⟩
  refine ⟨count, awake, told, fun done => ?_⟩
  rw [done] at known
  exact (known.resolve_left (by simp)).trans (seems_nil _ _)

/-- Bob has fallen asleep in a game with Ann and comes back on another connection; then that one
ends, and Ann hears that he is dead and has left. -/
theorem stays_told_of_duel :
    let calls := duel ++ [.accept 3 (.ofMillis 5001),
      .receive 3 [.bytes 0x50 (Wire.bytesOf "RSI NAME Bob |")] (.ofMillis 5002)]
    ∃ diary, Diary.Kept .standard [] diary ∧
      diary.heard 1 = [.sleep "Bob", .awake "Bob"] ∧ diary.heard 3 = [] ∧
      (∃ count, diary.signs 2 = naps "Bob" count true) ∧
      let next := diary.server.terminate 3 .silence
      diary.server = (start ServerConfig.standard.validated []).run calls ∧
      (diary.server.news next 1).filter (Notice.IsSignOf "Bob") = [.dead "Bob", .leave "Bob"] ∧
      ∃ count awake, (diary.after next [] (some (3, .dies))).signs 2 =
        naps "Bob" count awake ++ [.dead "Bob", .leave "Bob"] := by
  intro calls
  rcases stays_told .standard [] with ⟨runs, kept_tells⟩
  rcases runs calls with ⟨diary, kept, same, done, heard⟩
  rcases kept_tells diary kept with ⟨tells, announces⟩
  have seat : diary.server.seated? 3 = some (⟨"Bob", 2⟩, 0) := by
    rw [same]
    decide +kernel
  have moment : diary.server.Moment diary.due (diary.server.terminate 3 .silence) []
      (some (3, .dies)) := by
    rw [done]
    exact .terminate 3 .silence
  have announced := announces _ _ _ moment
  refine ⟨diary, kept, ?_, ?_, ?_, same, ?_, ?_⟩
  · rw [heard]
    decide +kernel
  · rw [heard]
    decide +kernel
  · rcases tells 3 _ _ seat with ⟨count, awake, told, known⟩
    have wakeful : diary.server.awake 3 = true := by
      rw [same]
      decide +kernel
    exact ⟨count, by rw [told, known done, wakeful]⟩
  · have beside : diary.server.IsBeside 1 ⟨"Bob", 2⟩ 0 = true := by
      rw [same]
      decide +kernel
    rw [announced.beside seat, if_pos beside, noted_of_seated seat]
    rfl
  · have sat : diary.server.seatOf? 2 = some (⟨"Bob", 2⟩, 0) := by
      rw [same]
      decide +kernel
    have empty : (diary.server.terminate 3 .silence).seatOf? 2 = none := by
      rw [same]
      decide +kernel
    rcases announced.seats sat with keeps | ⟨_, id, ending, count, awake, ended, _, _, told⟩
    · cases empty.symm.trans keeps
    · cases ended
      exact ⟨count, awake, told⟩

end Server

end CardTable
