import CardTable.Session.Register

/-!
# Standing

Most of what happens to a session concerns neither who it is nor where it stands. Two registers are
alike when all their sessions agree in that and are found under the same names; whatever is said of
persons and places then carries over from one to the other.
-/

namespace CardTable

namespace Session

/-- Who a session is and where it stands. -/
def standing (session : Session) : ConnectionId × Option Identity × Location :=
  (session.id, session.identity, session.location)

theorem standing_eq_iff {session other : Session} :
    session.standing = other.standing ↔ session.id = other.id ∧
      session.identity = other.identity ∧ session.location = other.location := by
  simp [standing]

theorem player?_of_identity {session : Session} {identity : Identity}
    (carries : session.identity = some identity) : session.player? = some identity.player := by
  simp [player?, carries]

theorem player?_of_unnamed {session : Session} (unnamed : session.identity = none) :
    session.player? = none := by
  simp [player?, unnamed]

@[simp]
theorem standing_receive (session : Session) (config : SessionConfig) (arrivals : List Arrival)
    (now : Nanos) : (session.receive config arrivals now).2.standing = session.standing := by
  simp only [receive]
  split
  · rfl
  · split <;> rfl

@[simp]
theorem standing_takeFrames (session : Session) : session.takeFrames.2.standing = session.standing :=
  rfl

@[simp]
theorem standing_transmit (session : Session) (uptake : Uptake) :
    (session.transmit uptake).session.standing = session.standing := by
  simp only [transmit]
  split
  · rfl
  · split <;> rfl

end Session

namespace Sessions

variable {sessions other : Sessions} {id : ConnectionId}

/-! ## Look-ups after a change -/

theorem get?_modify (sessions : Sessions) (id asked : ConnectionId) (change : Session → Session) :
    (sessions.modify id change).get? asked =
      if asked = id then (sessions.get? asked).map change else sessions.get? asked :=
  Directory.get?_modify _ _ _ _

theorem get?_put (sessions : Sessions) (session : Session) (asked : ConnectionId) :
    (sessions.put session).get? asked =
      if asked = session.id then (sessions.get? asked).map fun _ => session
      else sessions.get? asked :=
  get?_modify _ _ _ _

theorem get?_put_of_get? {session changed : Session} (found : sessions.get? id = some session)
    (filed : changed.id = id) (asked : ConnectionId) :
    (sessions.put changed).get? asked = if asked = id then some changed else sessions.get? asked := by
  rw [get?_put, filed]
  split
  · next same => rw [same, found, Option.map_some]
  · rfl

theorem get?_deliver (sessions : Sessions) (mail : List Delivery) (asked : ConnectionId) :
    (sessions.deliver mail).get? asked = (sessions.get? asked).map fun session =>
      { session with outgoing := session.outgoing ++ bytesFor mail asked } :=
  Directory.get?_mapEntries _ _ _

theorem get?_beat (sessions : Sessions) (now : Nanos) (asked : ConnectionId) :
    (sessions.beat now).sessions.get? asked = (sessions.get? asked).map fun session =>
      ((session.pingDue sessions.config now).2.check sessions.config now).2 := by
  simp [beat, get?, Function.comp_def]

theorem connect_of_get? {session : Session} (found : sessions.get? id = some session)
    (now : Nanos) : sessions.connect id now = sessions := by
  have known : sessions.live.contains id = true := by
    simpa [Directory.contains, get?] using congrArg Option.isSome found
  rw [connect, if_pos known]

theorem get?_connect (missing : sessions.get? id = none) (now : Nanos) (asked : ConnectionId) :
    (sessions.connect id now).get? asked =
      if asked = id then some (.fresh id now) else sessions.get? asked := by
  have unknown : ¬sessions.live.contains id = true := by
    simpa [Directory.contains, get?] using congrArg Option.isSome missing
  rw [connect, if_neg unknown]
  exact Directory.get?_insert _ _ _ _

@[simp]
theorem byName_connect (sessions : Sessions) (id : ConnectionId) (now : Nanos) :
    (sessions.connect id now).byName = sessions.byName := by
  rw [connect]
  split <;> rfl

@[simp]
theorem byPlayer_connect (sessions : Sessions) (id : ConnectionId) (now : Nanos) :
    (sessions.connect id now).byPlayer = sessions.byPlayer := by
  rw [connect]
  split <;> rfl

theorem get?_close (sessions : Sessions) (id asked : ConnectionId) :
    (sessions.close id).2.get? asked = if asked = id then none else sessions.get? asked := by
  unfold close
  split
  · next missing =>
    split
    · next same => rw [same, missing]
    · rfl
  · exact Directory.get?_erase _ _ _

theorem get?_of_close {sessions rest : Sessions} {id : ConnectionId} {ended : Option Session}
    (closed : sessions.close id = (ended, rest)) :
    rest.get? id = none ∧ (ended = none → sessions.get? id = none) := by
  refine ⟨?_, ?_⟩
  · have gone := get?_close sessions id id
    rwa [closed, if_pos rfl] at gone
  · rintro rfl
    cases found : sessions.get? id with
    | none => rfl
    | some session => simp [close, found] at closed

theorem get?_release {κ : Type} [LT κ] [DecidableEq κ] (index : Directory κ ConnectionId)
    (key : Option κ) (id : ConnectionId) (asked : κ) :
    (release index key id).get? asked =
      if key = some asked ∧ index.get? asked = some id then none else index.get? asked := by
  unfold release
  cases key with
  | none => simp
  | some key =>
    by_cases same : key = asked
    · subst same
      by_cases owned : index.get? key = some id
      · simp [owned, Directory.get?_erase]
      · simp [owned]
    · have other : ¬asked = key := fun equal => same equal.symm
      by_cases owned : index.get? key = some id
      · simp [owned, Directory.get?_erase, same, other]
      · simp [owned, same]

/-! ## Registers that are alike -/

/-- The same sessions but for their buffers and clocks, under the same names. -/
structure Alike (sessions other : Sessions) : Prop where
  standing : ∀ id, (other.get? id).map Session.standing = (sessions.get? id).map Session.standing
  byName : other.byName = sessions.byName
  byPlayer : other.byPlayer = sessions.byPlayer

theorem Alike.refl (sessions : Sessions) : sessions.Alike sessions :=
  ⟨fun _ => rfl, rfl, rfl⟩

theorem Alike.symm (alike : sessions.Alike other) : other.Alike sessions :=
  ⟨fun id => (alike.standing id).symm, alike.byName.symm, alike.byPlayer.symm⟩

theorem Alike.exists_get? {session : Session} (alike : sessions.Alike other)
    (found : other.get? id = some session) :
    ∃ earlier, sessions.get? id = some earlier ∧ earlier.id = session.id ∧
      earlier.identity = session.identity ∧ earlier.location = session.location := by
  have same := alike.standing id
  rw [found, Option.map_some] at same
  rcases Option.map_eq_some_iff.1 same.symm with ⟨earlier, present, standing⟩
  exact ⟨earlier, present, Session.standing_eq_iff.1 standing⟩

theorem alike_modify {change : Session → Session}
    (kept : ∀ session, sessions.get? id = some session →
      (change session).standing = session.standing) :
    sessions.Alike (sessions.modify id change) := by
  refine ⟨fun asked => ?_, rfl, rfl⟩
  rw [get?_modify]
  split
  · next same =>
    subst same
    cases found : sessions.get? asked with
    | none => rfl
    | some session => simp [kept session found]
  · rfl

theorem alike_deliver (sessions : Sessions) (mail : List Delivery) :
    sessions.Alike (sessions.deliver mail) := by
  refine ⟨fun asked => ?_, rfl, rfl⟩
  rw [get?_deliver, Option.map_map]
  rfl

theorem alike_beat (sessions : Sessions) (now : Nanos) :
    sessions.Alike (sessions.beat now).sessions := by
  refine ⟨fun asked => ?_, rfl, rfl⟩
  rw [get?_beat, Option.map_map]
  rfl

theorem alike_put {session changed : Session} (found : sessions.get? id = some session)
    (filed : session.id = id) (same : changed.standing = session.standing) :
    sessions.Alike (sessions.put changed) := by
  have filed' : changed.id = id := (Session.standing_eq_iff.1 same).1.trans filed
  apply alike_modify
  intro earlier found'
  rw [filed', found] at found'
  cases found'
  exact same

/-- Where a session stands does not matter when it ends. -/
theorem close_modify {session : Session} (found : sessions.get? id = some session)
    {change : Session → Session}
    (kept : ∀ session, (change session).identity = session.identity) :
    ((sessions.modify id change).close id).2 = (sessions.close id).2 := by
  have live : (sessions.live.modify id change).erase id = sessions.live.erase id := by
    apply Directory.ext_get?
    intro asked
    rw [Directory.get?_erase, Directory.get?_erase, Directory.get?_modify]
    split <;> rfl
  have changed := get?_modify sessions id id change
  rw [if_pos rfl, found, Option.map_some] at changed
  simp only [close, changed, found, Session.nickname?, Session.player?, kept]
  simp only [modify, live]

end Sessions

end CardTable
