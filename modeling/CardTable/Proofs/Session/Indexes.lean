import CardTable.Proofs.Session.InPlace

/-!
# The indexes over time

Whatever is done with a register, a nickname leads to the session that carries it and to no other,
and so does a player, provided that nobody is named after a player who is there already. A session
that ends takes just its own entries along, and one that is taken over hands just these on.
-/

namespace CardTable.Sessions

/-- Something to do with a register or with one of its sessions. -/
inductive Action
  | connect (id : ConnectionId) (now : Nanos)
  | close (id : ConnectionId)
  | name (id : ConnectionId) (identity : Identity)
  | reclaim (old new : ConnectionId)
  | sendToPlayer (player : PlayerId) (notice : Notice)
  | sweep (now : Nanos)
  | touch (id : ConnectionId) (now : Nanos)
  | move (id : ConnectionId) (location : Location)
  | receive (id : ConnectionId) (arrivals : List Arrival) (now : Nanos)
  | takeFrames (id : ConnectionId)
  | enqueue (id : ConnectionId) (text : String)
  | transmit (id : ConnectionId) (uptake : Uptake)

/-- The register after an action, or why the action is refused. -/
def attempt (sessions : Sessions) : Action → Except SessionError Sessions
  | .connect id now => .ok (sessions.connect id now)
  | .close id => .ok (sessions.close id).2
  | .name id identity => sessions.name id identity
  | .reclaim old new => (sessions.reclaim old new).map Prod.snd
  | .sendToPlayer player notice => .ok (sessions.sendToPlayer player notice).2
  | .sweep now => .ok (sessions.sweep now).2
  | .touch id now => .ok (sessions.modify id fun session => (session.touch now).2)
  | .move id location => .ok (sessions.modify id fun session => { session with location })
  | .receive id arrivals now => .ok (sessions.modify id fun session =>
      (session.receive sessions.config arrivals now).2)
  | .takeFrames id => .ok (sessions.modify id fun session => session.takeFrames.2)
  | .enqueue id text => .ok (sessions.modify id (·.enqueue text))
  | .transmit id uptake => .ok (sessions.modify id fun session => (session.transmit uptake).session)

/-- The register after somebody tried an action; a refused one changes nothing. -/
def after (sessions : Sessions) (action : Action) : Sessions :=
  match sessions.attempt action with
  | .ok next => next
  | .error _ => sessions

def run (sessions : Sessions) (actions : List Action) : Sessions :=
  actions.foldl after sessions

/-- Nobody is named after a player whom a session carries already. -/
def Admits (sessions : Sessions) : Action → Prop
  | .name _ identity => ∀ session ∈ sessions.live.values, session.player? ≠ some identity.player
  | _ => True

instance (sessions : Sessions) (action : Action) : Decidable (sessions.Admits action) := by
  unfold Admits
  split <;> infer_instance

/-- All these actions are admitted when their turn comes. -/
def Permits (sessions : Sessions) : List Action → Prop
  | [] => True
  | action :: actions => sessions.Admits action ∧ (sessions.after action).Permits actions

variable {sessions next rest : Sessions} {id old new : ConnectionId} {identity : Identity}
  {ended : Session}

/-! ## What each action keeps -/

theorem Indexed.modify (indexed : sessions.Indexed) (id : ConnectionId) {change : Session → Session}
    (kept : ∀ session, sessions.get? id = some session →
      (change session).id = session.id ∧ (change session).identity = session.identity) :
    (sessions.modify id change).Indexed := by
  have same : ∀ asked, ((sessions.modify id change).get? asked).map Session.identity =
      (sessions.get? asked).map Session.identity := by
    intro asked
    rw [get?_modify]
    split
    · next here =>
      subst here
      cases found : sessions.get? asked with
      | none => rfl
      | some session => simp [(kept session found).2]
    · rfl
  refine ⟨?_, indexed.byName.of_identities same, indexed.byPlayer.of_identities same⟩
  intro asked session found
  rw [get?_modify] at found
  split at found
  · next here =>
    subst here
    rcases Option.map_eq_some_iff.1 found with ⟨earlier, found', rfl⟩
    exact (kept earlier found').1.trans (indexed.filed found')
  · exact indexed.filed found

theorem Indexed.of_standing (indexed : sessions.Indexed) (id : ConnectionId)
    {change : Session → Session} (same : ∀ session, (change session).standing = session.standing) :
    (sessions.modify id change).Indexed :=
  indexed.of_alike (alike_modify fun session _ => same session)

theorem Indexed.succeeded (indexed : sessions.Indexed) {previous heir : Session}
    (found : sessions.get? previous.id = some previous) (found' : sessions.get? heir.id = some heir)
    (unnamed : heir.identity = none) (different : previous.id ≠ heir.id) :
    (sessions.succeeded previous heir).Indexed := by
  rw [Sessions.succeeded]
  split
  · next identity carries => exact indexed.inherited found found' carries unnamed different
  · next nobody =>
    -- neither of the two is in an index
    let rest : Sessions := { sessions with live := sessions.live.erase previous.id }
    have erased : ∀ asked, rest.get? asked =
        if asked = previous.id then none else sessions.get? asked :=
      fun asked => Directory.get?_erase _ _ _
    have others : ∀ asked, asked ≠ previous.id → rest.get? asked = sessions.get? asked :=
      fun asked other => by rw [erased, if_neg other]
    have gone : rest.get? previous.id = none := by rw [erased, if_pos rfl]
    have closed : rest.Indexed := by
      refine ⟨?_, ?_, ?_⟩
      · intro asked session here
        rw [erased] at here
        split at here
        · cases here
        · exact indexed.filed here
      · exact indexed.byName.of_unnamed others (by simp_all) (by simp [gone])
      · exact indexed.byPlayer.of_unnamed others (by simp_all) (by simp [gone])
    refine closed.modify heir.id fun session here => ?_
    rw [others heir.id (Ne.symm different), found'] at here
    cases here
    exact ⟨rfl, nobody.trans unnamed.symm⟩

theorem Indexed.sendToPlayer (indexed : sessions.Indexed) (player : PlayerId) (notice : Notice) :
    (sessions.sendToPlayer player notice).2.Indexed := by
  rw [Sessions.sendToPlayer]
  split
  · exact indexed
  · exact indexed.of_standing _ fun _ => rfl

theorem Indexed.sweep (indexed : sessions.Indexed) (now : Nanos) :
    (sessions.sweep now).2.Indexed :=
  (indexed.of_alike (alike_beat sessions now)).of_alike (alike_deliver _ _)

theorem Indexed.attempt {action : Action} (indexed : sessions.Indexed)
    (admitted : sessions.Admits action) (accepted : sessions.attempt action = .ok next) :
    next.Indexed := by
  cases action with
  | connect id now =>
    cases accepted
    exact indexed.connect id now
  | close id =>
    cases accepted
    exact indexed.close id
  | sendToPlayer player notice =>
    cases accepted
    exact indexed.sendToPlayer player notice
  | sweep now =>
    cases accepted
    exact indexed.sweep now
  | touch id now =>
    cases accepted
    exact indexed.of_standing id fun _ => rfl
  | move id location =>
    cases accepted
    exact indexed.modify id fun _ _ => ⟨rfl, rfl⟩
  | receive id arrivals now =>
    cases accepted
    exact indexed.of_standing id fun session =>
      session.standing_receive sessions.config arrivals now
  | takeFrames id =>
    cases accepted
    exact indexed.of_standing id Session.standing_takeFrames
  | enqueue id text =>
    cases accepted
    exact indexed.of_standing id fun _ => rfl
  | transmit id uptake =>
    cases accepted
    exact indexed.of_standing id fun session => session.standing_transmit uptake
  | name id identity =>
    rcases exists_of_name indexed.filed accepted with ⟨session, found, unnamed, free, rfl⟩
    refine indexed.named found unnamed free ?_
    -- no session carries the player, so the index does not know the player either
    cases leads : sessions.findPlayer? identity.player with
    | none => rfl
    | some holder =>
      rcases (indexed.byPlayer _ _).1 leads with ⟨carrier, found', carries⟩
      have live : carrier ∈ sessions.live.values :=
        List.mem_map_of_mem (Directory.mem_entries_iff.2 found')
      exact (admitted carrier live carries).elim
  | reclaim old new =>
    rcases Game.map_snd_eq_ok accepted with ⟨ended, reclaimed⟩
    rcases exists_of_reclaim indexed.filed reclaimed with
      ⟨previous, heir, found, found', unnamed, different, -, rfl⟩
    have filed := indexed.filed found
    have filed' := indexed.filed found'
    subst filed filed'
    exact indexed.succeeded found found' unnamed different

theorem Indexed.run {actions : List Action} (indexed : sessions.Indexed)
    (permitted : sessions.Permits actions) : (sessions.run actions).Indexed := by
  induction actions generalizing sessions with
  | nil => exact indexed
  | cons action actions ih =>
    refine ih ?_ permitted.2
    rw [after]
    split
    · next accepted => exact indexed.attempt permitted.1 accepted
    · exact indexed

/-! ## Where names lead afterwards -/

/-- What led to a connection leads to its heir, if there is one, and all else leads where it did. -/
structure Redirects (sessions rest : Sessions) (id : ConnectionId) (heir : Option ConnectionId) :
    Prop where
  nicknames : ∀ nickname, rest.findName? nickname =
    if sessions.findName? nickname = some id then heir else sessions.findName? nickname
  players : ∀ player, rest.findPlayer? player =
    if sessions.findPlayer? player = some id then heir else sessions.findPlayer? player

section Redirecting

variable {κ : Type} [LT κ] [DecidableEq κ] {index : Directory κ ConnectionId}
  {field : Identity → κ}

theorem IsIndex.get?_iff (indexed : sessions.IsIndex index field) {session : Session}
    (found : sessions.get? id = some session) (key : κ) :
    index.get? key = some id ↔ session.identity.map field = some key := by
  rw [indexed key id, found]
  simp

theorem IsIndex.ne_of_missing (indexed : sessions.IsIndex index field)
    (missing : sessions.get? id = none) (key : κ) : index.get? key ≠ some id := by
  rw [ne_eq, indexed key id, missing]
  simp

theorem IsIndex.get?_free (indexed : sessions.IsIndex index field) {session : Session}
    (found : sessions.get? id = some session) (key : κ) :
    (release index (session.identity.map field) id).get? key =
      if index.get? key = some id then none else index.get? key := by
  simp only [get?_release, ← indexed.get?_iff found, and_self]

variable [LE κ] [DecidableLT κ] [Std.IsLinearOrder κ] [Std.LawfulOrderLT κ]

theorem IsIndex.get?_point (indexed : sessions.IsIndex index field) {session : Session}
    (found : sessions.get? id = some session) (carries : session.identity = some identity)
    (key : κ) :
    (index.insert (field identity) new).get? key =
      if index.get? key = some id then some new else index.get? key := by
  have same : key = field identity ↔ index.get? key = some id := by
    rw [indexed.get?_iff found, carries, Option.map_some, Option.some_inj, eq_comm]
  rw [Directory.get?_insert]
  simp only [same]

end Redirecting

theorem Indexed.redirects_close (indexed : sessions.Indexed) (id : ConnectionId) :
    sessions.Redirects (sessions.close id).2 id none := by
  rw [Sessions.close]
  cases found : sessions.get? id with
  | none =>
    exact ⟨fun nickname => (if_neg (indexed.byName.ne_of_missing found nickname)).symm,
      fun player => (if_neg (indexed.byPlayer.ne_of_missing found player)).symm⟩
  | some session => exact ⟨indexed.byName.get?_free found, indexed.byPlayer.get?_free found⟩

theorem Indexed.redirects_reclaim (indexed : sessions.Indexed)
    (accepted : sessions.reclaim old new = .ok (ended, rest)) :
    sessions.Redirects rest old (some new) := by
  rcases exists_of_reclaim indexed.filed accepted with
    ⟨previous, heir, found, found', -, -, -, rfl⟩
  have filed := indexed.filed found'
  subst filed
  rw [Sessions.succeeded]
  cases carries : previous.identity with
  | some identity =>
    exact ⟨indexed.byName.get?_point found carries, indexed.byPlayer.get?_point found carries⟩
  | none =>
    have unknown {κ : Type} [LT κ] [DecidableEq κ] {index : Directory κ ConnectionId}
        {field : Identity → κ} (isIndex : sessions.IsIndex index field) (key : κ) :
        index.get? key ≠ some old := by
      rw [ne_eq, isIndex.get?_iff found, carries]
      simp
    exact ⟨fun nickname => (if_neg (unknown indexed.byName nickname)).symm,
      fun player => (if_neg (unknown indexed.byPlayer player)).symm⟩

/-! ## Refusals -/

theorem name_refused_iff : (∃ error, sessions.name id identity = .error error) ↔
    (sessions.findName? identity.nickname).isSome ∨ sessions.get? id = none ∨
      ∃ session, sessions.get? id = some session ∧ session.nickname?.isSome := by
  rw [name]
  change (∃ error, (if (sessions.findName? identity.nickname).isSome then _ else _ :
    Except SessionError Sessions) = _) ↔ _
  split
  · next taken => simp [taken]
  · next free =>
    cases found : sessions.get? id with
    | none => simp
    | some session =>
      cases carries : session.identity <;>
        simp [Session.assign, Session.nickname?, carries, free]

theorem reclaim_refused_iff : (∃ error, sessions.reclaim old new = .error error) ↔
    sessions.get? new = none ∨ sessions.get? old = none ∨ old = new ∨
      ∃ heir, sessions.get? new = some heir ∧ heir.nickname?.isSome := by
  rw [reclaim]
  cases found : sessions.get? new with
  | none => simp
  | some heir =>
    cases carries : heir.identity with
    | some identity => simp [Session.nickname?, carries]
    | none =>
      cases found' : sessions.get? old with
      | none => simp [carries]
      | some previous => by_cases same : old = new <;> simp [Session.nickname?, carries, same]

/-! ## Exactness -/

/-- The indexes say what the sessions say, ending or taking over a session changes just its own
entries, and what is refused changes nothing, also in the cells of the register. -/
structure Exact (sessions : Sessions) : Prop where
  filed : ∀ id session, sessions.get? id = some session → session.id = id
  findName?_iff : ∀ nickname id, sessions.findName? nickname = some id ↔
    ∃ session, sessions.get? id = some session ∧ session.nickname? = some nickname
  findPlayer?_iff : ∀ player id, sessions.findPlayer? player = some id ↔
    ∃ session, sessions.get? id = some session ∧ session.player? = some player
  named_iff : ∀ id session, sessions.cells.live.get? id = some session →
    (session.nickname.isSome ↔ session.player.isSome)
  one_nickname : ∀ first second session other nickname, sessions.get? first = some session →
    session.nickname? = some nickname → sessions.get? second = some other →
    other.nickname? = some nickname → first = second
  one_player : ∀ first second session other player, sessions.get? first = some session →
    session.player? = some player → sessions.get? second = some other →
    other.player? = some player → first = second
  closed : ∀ id, sessions.Redirects (sessions.close id).2 id none
  reclaimed : ∀ old new ended rest, sessions.reclaim old new = .ok (ended, rest) →
    sessions.Redirects rest old (some new)
  name_refused : ∀ id identity, (∃ error, sessions.name id identity = .error error) ↔
    (sessions.findName? identity.nickname).isSome ∨ sessions.get? id = none ∨
      ∃ session, sessions.get? id = some session ∧ session.nickname?.isSome
  reclaim_refused : ∀ old new, (∃ error, sessions.reclaim old new = .error error) ↔
    sessions.get? new = none ∨ sessions.get? old = none ∨ old = new ∨
      ∃ heir, sessions.get? new = some heir ∧ heir.nickname?.isSome
  close_inPlace : ∀ id, RegisterCells.Agrees sessions
    (.ok ((sessions.close id).1.map Session.cells, (sessions.close id).2))
    (RegisterCells.close id sessions.cells)
  name_inPlace : ∀ id identity, RegisterCells.Agrees sessions
    ((sessions.name id identity).map ((), ·)) (RegisterCells.name id identity sessions.cells)
  reclaim_inPlace : ∀ old new, RegisterCells.Agrees sessions
    ((sessions.reclaim old new).map fun (ended, rest) => (ended.cells, rest))
    (RegisterCells.reclaim old new sessions.cells)

/-- Whatever is done with a register, its indexes stay exact inverses of its sessions. -/
theorem indexes_exact (config : SessionConfig) {actions : List Action}
    (permitted : (vacant config).Permits actions) : ((vacant config).run actions).Exact := by
  have indexed := (Indexed.vacant config).run permitted
  refine {
    filed := fun id session => indexed.filed
    findName?_iff := indexed.byName
    findPlayer?_iff := indexed.byPlayer
    named_iff := ?_
    one_nickname := ?_
    one_player := fun first second session other player found carries found' carries' =>
      indexed.unique_player found carries found' carries'
    closed := indexed.redirects_close
    reclaimed := fun old new ended rest => indexed.redirects_reclaim
    name_refused := fun id identity => name_refused_iff
    reclaim_refused := fun old new => reclaim_refused_iff
    close_inPlace := RegisterCells.close_agrees _
    name_inPlace := RegisterCells.name_agrees indexed.filed
    reclaim_inPlace := RegisterCells.reclaim_agrees indexed.filed }
  · intro id cells found
    rw [RegisterCells.get?_cells] at found
    rcases Option.map_eq_some_iff.1 found with ⟨session, -, rfl⟩
    simp [Session.cells, Session.nickname?, Session.player?]
  · intro first second session other nickname found carries found' carries'
    have leads := (indexed.byName nickname first).2 ⟨session, found, carries⟩
    have leads' := (indexed.byName nickname second).2 ⟨other, found', carries'⟩
    exact Option.some.inj (leads.symm.trans leads')

/-- A connection takes over a name and is gone in turn, and the name can be given again. -/
theorem indexes_exact_of_return :
    let actions : List Action := [.connect 1 0, .connect 2 0, .name 1 ⟨"ann", 7⟩, .reclaim 1 2,
      .close 2, .connect 1 0, .name 1 ⟨"ann", 7⟩]
    (vacant {}).Permits actions ∧ ((vacant {}).run actions).findName? "ann" = some 1 ∧
      ∃ session, ((vacant {}).run actions).get? 1 = some session ∧
        session.nickname? = some "ann" := by
  intro actions
  have permitted : (vacant {}).Permits actions :=
    ⟨trivial, trivial, by decide, trivial, trivial, trivial, by decide, trivial⟩
  have leads : ((vacant {}).run actions).findName? "ann" = some 1 := by decide
  exact ⟨permitted, leads, ((indexes_exact {} permitted).findName?_iff "ann" 1).1 leads⟩

end CardTable.Sessions
