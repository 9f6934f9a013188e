import CardTable.Proofs.Server.Tracking

/-!
# Sweeps

A sweep looks at every clock before it tells anybody anything. While it goes through what has
happened, the rooms know of the sleepers that have been told already, and of the others they do not
know yet.
-/

namespace CardTable.Server

variable {server next : Server} {told : ConnectionId → Bool} {id : ConnectionId}
  {events : List (ConnectionId × LivenessEvent)}
  {heard : ConnectionId → List Notice} {plays : ConnectionId → List Card}

/-- What is still to be told after a look at the clocks. Whoever fell asleep is asleep, and of those
to whom nothing has happened everybody knows already. -/
structure Due (server : Server) (told : ConnectionId → Bool)
    (events : List (ConnectionId × LivenessEvent)) : Prop where
  asleep : ∀ {id session}, (id, .fellAsleep) ∈ events → server.sessions.get? id = some session →
    session.Known false
  others : ∀ {id session}, server.sessions.get? id = some session →
    (∀ event, (id, event) ∉ events) → session.Known (told id)

namespace Due

theorem of_keeps (due : server.Due told events) (keeps : server.sessions.Keeps next.sessions) :
    next.Due told events := by
  refine ⟨?_, ?_⟩
  · intro id later event found
    rcases keeps id later found with ⟨earlier, found', presence, incoming⟩
    exact (due.asleep event found').of_same presence incoming
  · intro id later found nothing
    rcases keeps id later found with ⟨earlier, found', presence, incoming⟩
    exact (due.others found' nothing).of_same presence incoming

/-- Everybody is told that somebody has fallen asleep. -/
theorem sleep (due : server.Due told ((id, .fellAsleep) :: events)) :
    server.Due (Function.update told id false) events := by
  refine ⟨fun event found => due.asleep (List.mem_cons_of_mem _ event) found, ?_⟩
  intro asked session found nothing
  by_cases same : asked = id
  · subst same
    rw [Function.update_self]
    exact due.asleep List.mem_cons_self found
  · rw [Function.update_of_ne same]
    apply due.others found
    simp [same, nothing]

/-- Of the dead nothing has to be told any more once their sessions are gone. -/
theorem die (due : server.Due told ((id, .died) :: events))
    (gone : server.sessions.get? id = none) : server.Due told events := by
  refine ⟨fun event found => due.asleep (List.mem_cons_of_mem _ event) found, ?_⟩
  intro asked session found nothing
  have other : asked ≠ id := by
    rintro rfl
    cases gone.symm.trans found
  apply due.others found
  simp [other, nothing]

theorem rested (due : server.Due told []) : server.Rested told :=
  fun _ _ found => due.others found (by simp)

end Due

/-- The clocks tell what has happened to the sessions since the last look at them. -/
theorem Rested.due (rested : server.Rested told) (now : Nanos) :
    ({ server with sessions := (server.sessions.beat now).sessions } : Server).Due told
      (server.sessions.beat now).events := by
  have looked {id : ConnectionId} {later : Session}
      (found : (server.sessions.beat now).sessions.get? id = some later) :
      ∃ session event, server.sessions.get? id = some session ∧
        (session.pingDue server.sessions.config now).2.check server.sessions.config now =
          (event, later) := by
    rw [Sessions.get?_beat] at found
    rcases Option.map_eq_some_iff.1 found with ⟨session, found', rfl⟩
    exact ⟨session, _, found', rfl⟩
  refine ⟨?_, ?_⟩
  · intro id later told_asleep found
    rcases looked found with ⟨session, event, found', look⟩
    rcases Sessions.mem_events_iff.1 told_asleep with ⟨session', found'', fell⟩
    cases Option.some.inj (found'.symm.trans found'')
    rw [look] at fell
    exact ((rested found').check look).1 fell
  · intro id later found nothing
    rcases looked found with ⟨session, event, found', look⟩
    have silent : event = none := by
      cases happened : event with
      | none => rfl
      | some event' =>
        have told_event := Sessions.mem_events_iff.2 ⟨session, found', by rw [look, happened]⟩
        exact (nothing event' told_event).elim
    exact ((rested found').check look).2 silent

/-! ## Reactions -/

theorem Tracks.sleep (tracks : server.Tracks told heard plays) (linked : server.Linked)
    (id : ConnectionId) :
    (server.react (id, .fellAsleep)).Tracks (Function.update told id false) heard plays := by
  have dozing := tracks.doze linked id false
  cases seat : server.seated? id with
  | none => simpa [react, seat] using dozing
  | some seated => simpa [react, seat] using dozing

theorem keeps_sleep (server : Server) (id : ConnectionId) :
    server.sessions.Keeps (server.react (id, .fellAsleep)).sessions := by
  rw [react]
  split
  · rw [tellRoom_eq_saying]
    exact .refl _
  · exact .refl _

/-- When everything that has happened has been told, everybody knows who is awake. -/
theorem exists_reacted (linked : server.Linked) (due : server.Due told events) :
    ∃ told', (events.foldl react server).Linked ∧ (events.foldl react server).Rested told' ∧
      ∀ {heard plays}, server.Tracks told heard plays →
        (events.foldl react server).Tracks told' heard plays := by
  -- The clocks have been set already, so the rooms lag behind until the last event is told: `Due`
  -- says by how much, and `told` is what they know.
  induction events generalizing server told with
  | nil => exact ⟨told, linked, due.rested, id⟩
  | cons first events ih =>
    rcases first with ⟨id, _ | _⟩
    · rcases ih (linked.react _) (due.of_keeps (keeps_sleep server id)).sleep with
        ⟨told', linked', rested, follow⟩
      exact ⟨told', linked', rested, fun tracks => follow (tracks.sleep linked id)⟩
    · have quietly := quietly_terminate linked told id .silence
      rcases ih (linked.terminate id .silence)
        ((due.of_keeps quietly.keeps).die (get?_terminate server id .silence)) with
        ⟨told', linked', rested, follow⟩
      exact ⟨told', linked', rested, fun tracks => follow (tracks.quietly quietly)⟩

/-! ## A sweep -/

theorem quietly_pings (linked : server.Linked) (told : ConnectionId → Bool)
    (ids : List ConnectionId) :
    (ids.foldl (·.tell · .ping) server).Linked ∧
      server.Quietly told (ids.foldl (·.tell · .ping) server) := by
  induction ids generalizing server with
  | nil => exact ⟨linked, .refl _ _⟩
  | cons id ids ih =>
    rcases ih (linked.tell id .ping) with ⟨linked', quietly⟩
    exact ⟨linked', (@quietly_tell server told id .ping trivial).trans quietly⟩

theorem carries_sweepCore (linked : server.Linked) (rested : server.Rested server.awake)
    (now : Nanos) : server.Carries (server.sweepCore now) fun _ => [] := by
  let beat : Server := { server with sessions := (server.sessions.beat now).sessions }
  have linked' : beat.Linked := (Step.beat now).linked linked
  rcases quietly_pings linked' server.awake (server.sessions.beat now).pings with ⟨pinged, quietly⟩
  rcases exists_reacted pinged ((rested.due now).of_keeps quietly.keeps) with
    ⟨told, reacted, rested', follow⟩
  refine Rested.carries rested' reacted ?_
  intro heard plays tracks
  have looked : beat.Tracks server.awake heard plays :=
    tracks.of_people (samePeople_of_alike (Sessions.alike_beat server.sessions now)) rfl rfl
  simp only [List.append_nil]
  exact follow (looked.quietly quietly)

end CardTable.Server
