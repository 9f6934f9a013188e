import CardTable.Proofs.Session.Standing

/-!
# Between two calls

When a call is over no live session is dead, and no frame that has come in whole is left unread.
Frames are then only ever read from a session that something has just come in for, so that it is
awake.
-/

namespace CardTable

/-- Whatever is left when all frames have been read, no whole frame is in it. -/
theorem Wire.readFrames_rest {bytes rest : Bytes} {frames : List Frame}
    (read : readFrames bytes = (.ok frames, rest)) : readFrames rest = (.ok [], rest) := by
  fun_induction readFrames bytes generalizing frames rest with
  | case1 bytes early =>
    cases read
    rw [readFrames, if_pos early]
  | case2 | case4 => cases read
  | case3 bytes judged opens whole =>
    cases read
    rw [readFrames, if_neg judged, if_neg opens]
    split <;> simp_all
  | case5 =>
    rename_i later ih
    rcases Prod.mk.inj read with ⟨mapped, rfl⟩
    cases first : later.1 with
    | error error =>
      rw [first] at mapped
      cases mapped
    | ok frames => exact ih (Prod.ext first rfl)

namespace Session

/-- A session that is not dead, and from which every whole frame has been read. -/
structure Settled (session : Session) : Prop where
  alive : session.presence.liveness ≠ .dead
  read : Wire.readFrames session.incoming = (.ok [], session.incoming)

variable {session filled rest : Session} {config : SessionConfig} {now : Nanos}

theorem settled_fresh (id : ConnectionId) (now : Nanos) : (fresh id now).Settled := by
  refine ⟨by simp [fresh, Presence.fresh], ?_⟩
  have early : ¬Wire.CanBeJudged [] := by simp [Wire.CanBeJudged, Wire.skipBlanks]
  change Wire.readFrames [] = _
  rw [Wire.readFrames, if_pos early]
  rfl

theorem Settled.of_same (settled : session.Settled) (presence : rest.presence = session.presence)
    (incoming : rest.incoming = session.incoming) : rest.Settled := by
  refine ⟨by rw [presence]; exact settled.alive, ?_⟩
  rw [incoming]
  exact settled.read

/-- A settled session, and whether it is awake. -/
structure Known (session : Session) (awake : Bool) : Prop where
  settled : session.Settled
  awake : awake = session.isAwake

theorem Known.of_same {awake : Bool} (known : session.Known awake)
    (presence : session.presence = rest.presence) (incoming : session.incoming = rest.incoming) :
    rest.Known awake := by
  refine ⟨known.settled.of_same presence.symm incoming.symm, ?_⟩
  rw [known.awake, isAwake, isAwake, presence]

theorem presence_transmit (session : Session) (uptake : Uptake) :
    (session.transmit uptake).session.presence = session.presence ∧
      (session.transmit uptake).session.incoming = session.incoming := by
  simp only [transmit]
  split
  · exact ⟨rfl, rfl⟩
  · split <;> exact ⟨rfl, rfl⟩

/-- What comes in leaves the session awake; if nothing does, there is nothing to read. -/
theorem Settled.receive (settled : session.Settled) {arrivals : List Arrival} {traffic : Traffic}
    {frames : List Wire.Frame}
    (received : session.receive config arrivals now = (.ok traffic, filled))
    (taken : filled.takeFrames = (.ok frames, rest)) :
    rest.Known (traffic.woke || session.isAwake) ∧ (frames = [] ∨ rest.isAwake = true) := by
  have read : Wire.readFrames filled.incoming = (.ok frames, rest.incoming) := by
    simp only [takeFrames] at taken
    rcases Prod.mk.inj taken with ⟨whole, rfl⟩
    cases first : (Wire.readFrames filled.incoming).1 with
    | error error =>
      rw [first] at whole
      cases whole
    | ok others =>
      rw [first] at whole
      cases whole
      exact Prod.ext first rfl
  have presence : rest.presence = filled.presence := by
    rw [← congrArg (fun taken => taken.2.presence) taken]
    rfl
  have unread := Wire.readFrames_rest read
  simp only [Session.receive] at received
  split at received
  · cases received
  -- What had come in before was read then, so without new bytes there is no frame.
  · split at received
    · next nothing =>
      cases received
      simp only [nothing, List.append_nil] at read
      rw [settled.read] at read
      rcases Prod.mk.inj read with ⟨none, _⟩
      cases none
      refine ⟨⟨⟨?_, unread⟩, ?_⟩, .inl rfl⟩
      · rw [presence]
        exact settled.alive
      · simp [isAwake, presence]
    · cases received
      have alive := settled.alive
      have awake : rest.isAwake = true := by
        rw [isAwake, presence]
        cases liveness : session.presence.liveness <;> simp_all [Presence.touch]
      refine ⟨⟨⟨?_, unread⟩, ?_⟩, .inr awake⟩
      · intro dead
        simp [isAwake, dead] at awake
      · rw [awake]
        cases liveness : session.presence.liveness <;> simp_all [Presence.touch, isAwake]

/-! ## The beat -/

end Session

namespace Presence

variable {presence later : Presence} {event : Option LivenessEvent}

theorem liveness_pingDue (presence : Presence) (thresholds : Thresholds) (now : Nanos) :
    (presence.pingDue thresholds now).2.liveness = presence.liveness := by
  rw [pingDue]
  split <;> rfl

/-- Whoever is not dead has fallen asleep, has died, or is as before. -/
theorem liveness_of_check {thresholds : Thresholds} {now : Nanos}
    (alive : presence.liveness ≠ .dead) (looked : presence.check thresholds now = (event, later)) :
    (event = some .fellAsleep → later.liveness = .asleep) ∧
      (event = none → later.liveness = presence.liveness) := by
  simp only [check] at looked
  rw [if_neg alive] at looked
  split at looked
  · cases looked
    simp
  · split at looked
    · split at looked
      · cases looked
        simp
      · cases looked
        simp
    · cases looked
      simp

end Presence

namespace Session

variable {session : Session} {config : SessionConfig} {now : Nanos}

/-- A look at the clock tells whether the session has fallen asleep. If nothing has happened, it is
as it was. -/
theorem Known.check {awake : Bool} (known : session.Known awake) {event : Option LivenessEvent}
    {later : Session} (looked : (session.pingDue config now).2.check config now = (event, later)) :
    (event = some .fellAsleep → later.Known false) ∧ (event = none → later.Known awake) := by
  have ping := session.presence.liveness_pingDue config.thresholds now
  have alive : (session.presence.pingDue config.thresholds now).2.liveness ≠ .dead := by
    rw [ping]
    exact known.settled.alive
  have parts : (session.presence.pingDue config.thresholds now).2.check config.thresholds now =
      (event, later.presence) ∧ later.incoming = session.incoming := by
    rcases Prod.mk.inj looked with ⟨happened, rfl⟩
    exact ⟨Prod.ext happened rfl, rfl⟩
  have read : Wire.readFrames later.incoming = (.ok [], later.incoming) := by
    rw [parts.2]
    exact known.settled.read
  rcases Presence.liveness_of_check alive parts.1 with ⟨sleeps, stays⟩
  refine ⟨?_, ?_⟩
  · intro fell
    have asleep := sleeps fell
    exact ⟨⟨by simp [asleep], read⟩, by simp [isAwake, asleep]⟩
  · intro nothing
    have same := (stays nothing).trans ping
    refine ⟨⟨?_, read⟩, ?_⟩
    · rw [same]
      exact known.settled.alive
    · rw [known.awake, isAwake, isAwake, same]

end Session

namespace Sessions

variable {sessions : Sessions} {id : ConnectionId} {now : Nanos}

/-- What a beat tells is what the clocks of the live sessions tell. -/
theorem mem_events_iff {event : LivenessEvent} :
    (id, event) ∈ (sessions.beat now).events ↔ ∃ session, sessions.get? id = some session ∧
      ((session.pingDue sessions.config now).2.check sessions.config now).1 = some event := by
  let looked := sessions.live.mapEntries fun _ session =>
    ((session.pingDue sessions.config now).1,
      (session.pingDue sessions.config now).2.check sessions.config now)
  have looks (look : Bool × Option LivenessEvent × Session) : (id, look) ∈ looked.entries ↔
      ∃ session, sessions.get? id = some session ∧ ((session.pingDue sessions.config now).1,
        (session.pingDue sessions.config now).2.check sessions.config now) = look := by
    rw [Directory.mem_entries_iff, Directory.get?_mapEntries, Option.map_eq_some_iff]
    rfl
  constructor
  · intro told
    rcases List.mem_filterMap.1 told with ⟨⟨asked, look⟩, entry, happened⟩
    rcases Option.map_eq_some_iff.1 happened with ⟨other, happened, same⟩
    cases same
    rcases (looks look).1 entry with ⟨session, found, rfl⟩
    exact ⟨session, found, happened⟩
  · rintro ⟨session, found, happened⟩
    have entry := (looks _).2 ⟨session, found, rfl⟩
    exact List.mem_filterMap.2 ⟨_, entry, by simp [happened]⟩

end Sessions

end CardTable
