import CardTable.Proofs.Server.Answers
import CardTable.Proofs.Session.Clocks

/-!
# Tracking

Every call keeps the clients informed. Between two calls everybody has been told who is awake; when
bytes come in or the clocks are looked at, this lags behind for a while, until the rooms have been
told.
-/

namespace CardTable

/-- The card that a frame asks to lay. -/
def cardOf? (frame : Wire.Frame) : Option Card := do
  (← (Request.ofWords frame).toOption).card?

namespace Server

variable {server middle next : Server} {told told' : ConnectionId → Bool} {id : ConnectionId}
  {session : Session} {laid laid' : ConnectionId → List Card}
  {heard : ConnectionId → List Notice} {plays : ConnectionId → List Card}

/-- Everybody has been told who is awake, and nothing is left to be read. -/
def Rested (server : Server) (told : ConnectionId → Bool) : Prop :=
  ∀ ⦃id session⦄, server.sessions.get? id = some session → session.Known (told id)

theorem Rested.of_keeps (rested : server.Rested told)
    (keeps : server.sessions.Keeps next.sessions) : next.Rested told := by
  intro id later found
  rcases keeps id later found with ⟨earlier, found', presence, incoming⟩
  exact (rested found').of_same presence incoming

/-! ## Frames -/

theorem Answered.trans (first : server.Answered told middle laid)
    (second : middle.Answered told next laid') :
    server.Answered told next fun id => laid id ++ laid' id :=
  ⟨fun tracks => by simpa using second.tracks (first.tracks tracks), first.keeps.trans second.keeps⟩

/-- A session that has been ended is gone, whatever came before. -/
theorem get?_terminate (server : Server) (id : ConnectionId) (reason : EndReason) :
    (server.terminate id reason).sessions.get? id = none := by
  simp only [terminate]
  split
  · next closed => exact (Sessions.get?_of_close closed).1
  · next closed => exact (Sessions.get?_of_close closed).2 rfl

theorem exists_of_dispatch {frame : Wire.Frame} (served : server.dispatch id frame = .ok next) :
    ∃ session request, server.sessions.get? id = some session ∧
      Request.ofWords frame = .ok request ∧ server.serve id request = .ok next := by
  cases found : server.sessions.get? id with
  | none => simp [dispatch, found, fail] at served
  | some session =>
    cases read : Request.ofWords frame with
    | error error => simp [dispatch, found, read, fail] at served
    | ok request =>
      refine ⟨session, request, rfl, rfl, ?_⟩
      simpa [dispatch, found, read] using served

/-- Frames are served one after the other. If the connection is still there afterwards, it has laid
all the cards that it has asked to lay. -/
theorem answered_frames (linked : server.Linked) (rested : server.Rested told)
    (awake : told id = true) (frames : List Wire.Frame) :
    ∃ cards, (server.Answered told (server.serveFrames id frames) fun asked =>
        if asked = id then cards else []) ∧
      ((server.serveFrames id frames).sessions.get? id ≠ none → cards = frames.filterMap cardOf?) := by
  -- A frame that fails ends the session, so the cards that were asked for then need not be accounted
  -- for; this is why the second part only speaks of connections that are still there.
  induction frames generalizing server with
  | nil =>
    refine ⟨[], ?_, fun _ => rfl⟩
    simpa [serveFrames] using Quietly.refl server told
  | cons frame later ih =>
    rw [serveFrames]
    cases served : server.dispatch id frame with
    | error failure =>
      simp only [linked.server_of_failure served]
      refine ⟨[], by simpa using quietly_terminate linked told id _, ?_⟩
      intro live
      exact (live (get?_terminate server id _)).elim
    | ok next =>
      rcases exists_of_dispatch served with ⟨session, request, found, read, done⟩
      have answered := answered_request linked found (fun found => (rested found).awake) awake done
      have linked' := (Step.serve served).linked linked
      rcases ih linked' (rested.of_keeps answered.keeps) with ⟨cards, later_answered, all⟩
      refine ⟨request.card?.toList ++ cards, ?_, ?_⟩
      · have both := answered.trans later_answered
        have same : (fun asked => (if asked = id then request.card?.toList else []) ++
            if asked = id then cards else []) =
              fun asked => if asked = id then request.card?.toList ++ cards else [] := by
          funext asked
          split <;> rfl
        rwa [same] at both
      · intro live
        rw [all live]
        cases card : request.card? <;> simp [cardOf?, read, Except.toOption, card]

/-! ## Calls -/

/-- Whether a connection has a session that is awake. -/
def awake (server : Server) (id : ConnectionId) : Bool :=
  (server.sessions.get? id).any Session.isAwake

theorem awake_of_get? (found : server.sessions.get? id = some session) :
    server.awake id = session.isAwake := by
  simp [awake, found]

/-- Once everybody has been told who is awake, it does not matter what else has been told. -/
theorem Rested.tracks (rested : server.Rested told) (linked : server.Linked)
    (tracks : server.Tracks told heard plays) : server.Tracks server.awake heard plays := by
  apply tracks.of_told
  intro id player number sits
  rcases linked.indexed.exists_identity sits.leads with ⟨session, _, found, _⟩
  rw [awake_of_get? found, (rested found).awake]

theorem Rested.awake (rested : server.Rested told) : server.Rested server.awake :=
  fun _ _ found => ⟨(rested found).settled, awake_of_get? found⟩

section Connect

variable (missing : server.sessions.get? id = none) (now : Nanos)

include missing

/-- Nobody sees a connection that has just been made. -/
theorem tracks_connect (linked : server.Linked) (silent : heard id = [] ∧ server.lines id = [])
    (tracks : server.Tracks server.awake heard plays) :
    ({ server with sessions := server.sessions.connect id now } : Server).Tracks
      ({ server with sessions := server.sessions.connect id now } : Server).awake heard plays := by
  let next : Server := { server with sessions := server.sessions.connect id now }
  have after (asked : ConnectionId) : next.sessions.get? asked =
      if asked = id then some (.fresh id now) else server.sessions.get? asked :=
    Sessions.get?_connect missing now asked
  have leads (player : PlayerId) :
      next.sessions.findPlayer? player = server.sessions.findPlayer? player := by
    simp [next, Sessions.findPlayer?]
  rcases tracks with ⟨words, informed, lines, cards, plain⟩
  refine ⟨words, ⟨?_, ?_⟩, lines, cards, plain⟩
  · intro asked player number sits
    have scenes : next.scene next.awake number = server.scene server.awake number := by
      apply @scene_congr server next _ _ _ rfl
      intro other seats
      rcases linked.led seats with ⟨holder, led⟩
      rcases linked.indexed.exists_identity led with ⟨session, nickname, found, _⟩
      have apart : holder ≠ id := by
        rintro rfl
        cases missing.symm.trans found
      have same := (after holder).trans (if_neg apart)
      refine guest?_congr (leads other) ?_ ?_
      · simp [nicknameOf?, carrier?, leads, led, same]
      · intro holder' led'
        cases Option.some.inj (led.symm.trans led')
        simp [Server.awake, same]
    exact scenes ▸ informed.seated ⟨(leads player).symm.trans sits.leads, sits.seats⟩
  · intro asked session found unnamed
    change next.sessions.get? asked = some session at found
    rw [after] at found
    split at found
    · next same =>
      have none : words id = [] := by
        have unheard := lines id
        rw [silent.1, silent.2] at unheard
        simpa using unheard
      rw [same, none]
      simp
    · exact informed.nameless found unnamed

theorem rested_connect (rested : server.Rested server.awake) :
    ({ server with sessions := server.sessions.connect id now } : Server).Rested
      ({ server with sessions := server.sessions.connect id now } : Server).awake := by
  intro asked session found
  refine ⟨?_, awake_of_get? found⟩
  change (server.sessions.connect id now).get? asked = some session at found
  rw [Sessions.get?_connect missing] at found
  split at found
  · cases found
    exact Session.settled_fresh id now
  · exact (rested found).settled

end Connect

/-- A connection comes, of which nothing has been heard yet. -/
theorem tracks_acceptCore (linked : server.Linked)
    (silent : server.sessions.get? id = none → heard id = [] ∧ server.lines id = [])
    (tracks : server.Tracks server.awake heard plays) (now : Nanos) :
    (server.acceptCore id now).Tracks (server.acceptCore id now).awake heard plays := by
  rw [acceptCore]
  split
  · cases found : server.sessions.get? id with
    | some session =>
      rw [Sessions.connect_of_get? found]
      exact tracks
    | none => exact tracks_connect found now linked (silent found) tracks
  · exact tracks.quietly (quietly_closing server _ id .refused)

theorem rested_acceptCore (rested : server.Rested server.awake) (id : ConnectionId) (now : Nanos) :
    (server.acceptCore id now).Rested (server.acceptCore id now).awake := by
  rw [acceptCore]
  split
  · cases found : server.sessions.get? id with
    | some session =>
      rw [Sessions.connect_of_get? found]
      exact rested
    | none => exact rested_connect found now rested
  · exact rested

/-- A call, in which the connections lay the given cards, keeps the clients informed, and at its end
everybody has been told who is awake. -/
structure Carries (server next : Server) (laid : ConnectionId → List Card) : Prop where
  tracks : ∀ {heard plays}, server.Tracks server.awake heard plays →
    next.Tracks next.awake heard fun id => plays id ++ laid id
  rested : next.Rested next.awake
  linked : next.Linked

theorem Carries.refl (linked : server.Linked) (rested : server.Rested server.awake) :
    server.Carries server fun _ => [] :=
  ⟨fun tracks => by simpa using tracks, rested, linked⟩

theorem Rested.carries (rested : next.Rested told) (linked : next.Linked)
    (tracks : ∀ {heard plays}, server.Tracks server.awake heard plays →
      next.Tracks told heard fun id => plays id ++ laid id) : server.Carries next laid :=
  ⟨fun tracked => rested.tracks linked (tracks tracked), rested.awake, linked⟩

/-- If a session is ended, it does not matter what it has missed. -/
theorem rested_terminate (linked : server.Linked)
    (others : ∀ {asked session}, asked ≠ id → server.sessions.get? asked = some session →
      session.Known (told asked)) (reason : EndReason) :
    (server.terminate id reason).Rested told := by
  intro asked later found
  have other : asked ≠ id := by
    rintro rfl
    cases (get?_terminate server asked reason).symm.trans found
  rcases (quietly_terminate linked told id reason).keeps asked later found with
    ⟨earlier, found', presence, incoming⟩
  exact (others other found').of_same presence incoming

/-! ## Bytes that come in -/

/-- The cards that a connection asks to lay in what comes in. -/
def cardsIn (server : Server) (id : ConnectionId) (arrivals : List Arrival) (now : Nanos) :
    List Card :=
  match server.sessions.get? id with
  | none => []
  | some session =>
    match (session.receive server.sessions.config arrivals now).2.takeFrames.1 with
    | .ok frames => frames.filterMap cardOf?
    | .error _ => []

/-- The server once a session has taken in what its connection has; if this has woken the session, its
room is told so. -/
def woken (server : Server) (id : ConnectionId) (changed : Session) (woke : Bool) : Server :=
  let server := { server with sessions := server.sessions.put changed }
  if woke then server.tellWake id else server

theorem sessions_woken (server : Server) (id : ConnectionId) (changed : Session) (woke : Bool) :
    (server.woken id changed woke).sessions = server.sessions.put changed := by
  rw [woken]
  split
  · rw [tellWake_eq_saying]
    rfl
  · rfl

section Woken

variable {changed : Session} (found : server.sessions.get? id = some session)
  (filed : session.id = id) (standing : changed.standing = session.standing)

include found filed standing

theorem linked_woken (linked : server.Linked) (woke : Bool) :
    (server.woken id changed woke).Linked := by
  have put : ({ server with sessions := server.sessions.put changed } : Server).Linked :=
    linked.of_alike (Sessions.alike_put found filed standing) rfl rfl
  rw [woken]
  split
  · exact (Step.wake id).linked put
  · exact put

theorem get?_woken (woke : Bool) (asked : ConnectionId) :
    (server.woken id changed woke).sessions.get? asked =
      if asked = id then some changed else server.sessions.get? asked := by
  have filed' : changed.id = id := (Session.standing_eq_iff.1 standing).1.trans filed
  rw [sessions_woken, Sessions.get?_put_of_get? found filed']

theorem tracks_woken (linked : server.Linked) (matched : told id = session.isAwake) (woke : Bool)
    (tracks : server.Tracks told heard plays) : (server.woken id changed woke).Tracks
      (Function.update told id (woke || session.isAwake)) heard plays := by
  have alike := Sessions.alike_put found filed standing
  have put : ({ server with sessions := server.sessions.put changed } : Server).Linked :=
    linked.of_alike alike rfl rfl
  have tracked : ({ server with sessions := server.sessions.put changed } : Server).Tracks told heard
      plays := tracks.of_people (samePeople_of_alike alike) rfl rfl
  cases woke with
  | true => exact tracked.wake put id
  | false =>
    rw [Bool.false_or, ← matched, Function.update_eq_self]
    exact tracked

/-- Whatever goes wrong with a session then, it is ended. -/
theorem carries_terminate (linked : server.Linked) (rested : server.Rested server.awake)
    (woke : Bool) (reason : EndReason) :
    server.Carries ((server.woken id changed woke).terminate id reason) fun _ => [] := by
  have linked' := linked_woken found filed standing linked woke
  have matched := awake_of_get? found
  refine Rested.carries (@rested_terminate _ (Function.update server.awake id
    (woke || session.isAwake)) id linked' ?_ reason) (linked'.terminate id reason) ?_
  · intro asked later other found'
    rw [get?_woken found filed standing, if_neg other] at found'
    rw [Function.update_of_ne other]
    exact rested found'
  · intro heard plays tracked
    simpa using (tracks_woken found filed standing linked matched woke tracked).quietly
      (quietly_terminate linked' _ id reason)

variable {woke : Bool} (known : changed.Known (woke || session.isAwake))

include known

theorem rested_woken (rested : server.Rested server.awake) :
    (server.woken id changed woke).Rested
      (Function.update server.awake id (woke || session.isAwake)) := by
  intro asked later found'
  rw [get?_woken found filed standing] at found'
  split at found'
  · next same =>
    cases found'
    rw [same, Function.update_self]
    exact known
  · next other =>
    rw [Function.update_of_ne other]
    exact rested found'

/-- The frames that have come in are served, and if there are any, something has just come in. -/
theorem carries_frames (linked : server.Linked) (rested : server.Rested server.awake)
    {frames : List Wire.Frame} (idle : frames = [] ∨ changed.isAwake = true) :
    ∃ cards, (server.Carries ((server.woken id changed woke).serveFrames id frames) fun asked =>
        if asked = id then cards else []) ∧
      (((server.woken id changed woke).serveFrames id frames).sessions.get? id ≠ none →
        cards = frames.filterMap cardOf?) := by
  have linked' := linked_woken found filed standing linked woke
  have rested' := rested_woken found filed standing known rested
  have matched := awake_of_get? found
  have served : ∃ cards, ((server.woken id changed woke).Answered
      (Function.update server.awake id (woke || session.isAwake))
      ((server.woken id changed woke).serveFrames id frames) fun asked =>
        if asked = id then cards else []) ∧
      (((server.woken id changed woke).serveFrames id frames).sessions.get? id ≠ none →
        cards = frames.filterMap cardOf?) := by
    -- If nothing came in the session may be asleep, and then there is no frame to be served.
    rcases idle with rfl | awake
    · refine ⟨[], ?_, fun _ => rfl⟩
      simpa [serveFrames] using Quietly.refl _ _
    · refine answered_frames linked' rested' ?_ frames
      rw [Function.update_self, known.awake, awake]
  rcases served with ⟨cards, answered, all⟩
  refine ⟨cards, ?_, all⟩
  refine Rested.carries (rested'.of_keeps answered.keeps) (linked'.serveFrames id frames) ?_
  intro heard plays tracked
  exact answered.tracks (tracks_woken found filed standing linked matched woke tracked)

end Woken

theorem carries_receiveCore (linked : server.Linked) (rested : server.Rested server.awake)
    (id : ConnectionId) (arrivals : List Arrival) (now : Nanos) :
    ∃ cards, (server.Carries (server.receiveCore id arrivals now) fun asked =>
        if asked = id then cards else []) ∧
      ((server.receiveCore id arrivals now).sessions.get? id ≠ none →
        cards = server.cardsIn id arrivals now) := by
  rw [receiveCore]
  cases found : server.sessions.get? id with
  | none =>
    refine ⟨[], by simpa using Carries.refl linked rested, ?_⟩
    intro live
    exact (live found).elim
  | some session =>
    have filed := linked.indexed.filed found
    rcases rested found with ⟨settled, matched⟩
    have standing := Session.standing_receive session server.sessions.config arrivals now
    dsimp only
    rcases received : session.receive server.sessions.config arrivals now with
      ⟨error | traffic, filled⟩
    · rw [received] at standing
      refine ⟨[], ?_, fun live => (live (get?_terminate _ id _)).elim⟩
      simpa [woken] using carries_terminate found filed standing linked rested false
        (.error (.session error))
    · rw [received] at standing
      rcases taken : filled.takeFrames with ⟨error | frames, rest⟩
      all_goals
        have standing' : rest.standing = session.standing := by
          rw [← congrArg (fun taken => taken.2.standing) taken, Session.standing_takeFrames]
          exact standing
        simp only [taken]
      · refine ⟨[], ?_, fun live => (live (get?_terminate _ id _)).elim⟩
        simpa [woken] using carries_terminate found filed standing' linked rested traffic.woke
          (.error (.session error))
      · rcases settled.receive received taken with ⟨known, idle⟩
        rcases carries_frames found filed standing' known linked rested idle with
          ⟨cards, carries, all⟩
        refine ⟨cards, by simpa [woken] using carries, ?_⟩
        intro live
        rw [cardsIn, found]
        simp only [received, taken]
        exact all live

/-! ## Bytes that go out -/

theorem carries_transmitCore (linked : server.Linked) (rested : server.Rested server.awake)
    (id : ConnectionId) (uptake : Uptake) :
    server.Carries (server.transmitCore id uptake).2 fun _ => [] := by
  rw [transmitCore]
  cases found : server.sessions.get? id with
  | none => exact .refl linked rested
  | some session =>
    have filed := linked.indexed.filed found
    have standing := Session.standing_transmit session uptake
    have alike := Sessions.alike_put found filed standing
    have linked' := (Step.drain found uptake).linked linked
    have quietly : server.Quietly server.awake
        { server with sessions := server.sessions.put (session.transmit uptake).session } := by
      rcases Session.presence_transmit session uptake with ⟨presence, incoming⟩
      have filed' := (Session.standing_eq_iff.1 standing).1.trans filed
      exact quietly_of_people [] (samePeople_of_alike alike) rfl rfl (by simp)
        (Sessions.keeps_put found filed' presence.symm incoming.symm)
    dsimp only
    split
    · refine Rested.carries (rested.of_keeps quietly.keeps) linked' ?_
      intro heard plays tracked
      exact quietly.tracks tracked
    · next error _ =>
      have ended := quietly.trans (quietly_terminate linked' _ id (.error (.session error)))
      refine Rested.carries (rested.of_keeps ended.keeps) (linked'.terminate id _) ?_
      intro heard plays tracked
      exact ended.tracks tracked

end Server

end CardTable
