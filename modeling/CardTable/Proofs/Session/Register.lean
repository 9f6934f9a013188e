import CardTable.Proofs.Session.Standing

/-!
# Indexes of the register

Both indexes of the register are inverses of what the live sessions say: a nickname, and a player,
leads to a connection exactly when the session of that connection carries it. Every operation on the
register keeps this.
-/

namespace CardTable.Sessions

variable {sessions other : Sessions} {id : ConnectionId}

/-! ## Indexes -/

section Index

variable {κ : Type} [LT κ] [DecidableEq κ] {index : Directory κ ConnectionId}
  {field : Identity → κ}

/-- The index leads from each key to the session that carries it, and nowhere else. -/
def IsIndex (sessions : Sessions) (index : Directory κ ConnectionId) (field : Identity → κ) :
    Prop :=
  ∀ key id, index.get? key = some id ↔
    ∃ session, sessions.get? id = some session ∧ session.identity.map field = some key

theorem IsIndex.of_identities (indexed : sessions.IsIndex index field)
    (same : ∀ id, (other.get? id).map Session.identity = (sessions.get? id).map Session.identity) :
    other.IsIndex index field := by
  intro key id
  rw [indexed key id]
  have here := same id
  cases found : sessions.get? id with
  | none =>
    rw [found, Option.map_none, Option.map_eq_none_iff] at here
    simp [here]
  | some session =>
    rw [found] at here
    rcases Option.map_eq_some_iff.1 here with ⟨later, found', identity⟩
    simp [found', identity]

theorem IsIndex.of_alike (indexed : sessions.IsIndex index field) (alike : sessions.Alike other) :
    other.IsIndex index field := by
  refine indexed.of_identities fun id => ?_
  have same := congrArg (Option.map fun standing => standing.2.1) (alike.standing id)
  simpa [Option.map_map, Function.comp_def, Session.standing] using same

/-- A session without identity comes or goes unnoticed by the indexes. -/
theorem IsIndex.of_unnamed (indexed : sessions.IsIndex index field) {id : ConnectionId}
    (others : ∀ asked, asked ≠ id → other.get? asked = sessions.get? asked)
    (before : ∀ session, sessions.get? id = some session → session.identity = none)
    (after : ∀ session, other.get? id = some session → session.identity = none) :
    other.IsIndex index field := by
  intro key asked
  rw [indexed key asked]
  by_cases here : asked = id
  · subst here
    constructor
    · rintro ⟨session, found, carries⟩
      simp [before session found] at carries
    · rintro ⟨session, found, carries⟩
      simp [after session found] at carries
  · rw [others asked here]

theorem IsIndex.close (indexed : sessions.IsIndex index field) {session : Session}
    (found : sessions.get? id = some session)
    (rest : ∀ asked, other.get? asked = if asked = id then none else sessions.get? asked) :
    other.IsIndex (release index (session.identity.map field) id) field := by
  intro key asked
  rw [get?_release, rest]
  by_cases here : asked = id
  · subst here
    rw [if_pos rfl]
    have carries := indexed key asked
    rw [found] at carries
    split
    · simp
    · next foreign => simp_all
  · rw [if_neg here, ← indexed key asked]
    split
    · next gone => simp [gone.2, Ne.symm here]
    · rfl

variable [LE κ] [DecidableLT κ] [Std.IsLinearOrder κ] [Std.LawfulOrderLT κ]

theorem IsIndex.name (indexed : sessions.IsIndex index field) {identity : Identity}
    {session named : Session} (free : index.get? (field identity) = none)
    (found : sessions.get? id = some session) (unnamed : session.identity = none)
    (after : ∀ asked, other.get? asked = if asked = id then some named else sessions.get? asked)
    (carries : named.identity = some identity) :
    other.IsIndex (index.insert (field identity) id) field := by
  intro key asked
  rw [Directory.get?_insert, after]
  by_cases here : asked = id
  · subst here
    by_cases same : key = field identity
    · simp [same, carries]
    · have absent : index.get? key ≠ some asked := by
        intro leads
        rcases (indexed key asked).1 leads with ⟨holder, found', holds⟩
        rw [found] at found'
        cases found'
        simp [unnamed] at holds
      simp [same, absent, carries, Ne.symm same]
  · rw [if_neg here]
    by_cases same : key = field identity
    · subst same
      rw [if_pos rfl, ← indexed, free]
      simp [Ne.symm here]
    · rw [if_neg same]
      exact indexed key asked

theorem insert_release (key : κ) (old new : ConnectionId) :
    (release index (some key) old).insert key new = index.insert key new := by
  apply Directory.ext_get?
  intro asked
  rw [Directory.get?_insert, Directory.get?_insert, get?_release]
  split
  · rfl
  · next other => simp [Ne.symm other]

end Index

/-! ## The invariant -/

/-- Every session is filed under its own number, and both indexes are inverses of the sessions. -/
structure Indexed (sessions : Sessions) : Prop where
  filed : ∀ {id session}, sessions.get? id = some session → session.id = id
  byName : sessions.IsIndex sessions.byName Identity.nickname
  byPlayer : sessions.IsIndex sessions.byPlayer Identity.player

/-! ### Taking a name over -/

/-- The register in which a session has got its identity. -/
def named (sessions : Sessions) (session : Session) (identity : Identity) : Sessions :=
  (sessions.put { session with identity := some identity, location := .lobby }).enter session.id
    identity

/-- The register in which one session has inherited from another one. -/
def inherited (sessions : Sessions) (previous heir : Session) (identity : Identity) : Sessions :=
  (({ sessions with live := sessions.live.erase previous.id }).put
    (heir.inherit previous)).enter heir.id identity

theorem name_eq_ok {session : Session} {identity : Identity}
    (free : sessions.findName? identity.nickname = none) (found : sessions.get? session.id = some session)
    (unnamed : session.identity = none) :
    sessions.name session.id identity = .ok (sessions.named session identity) := by
  have unknown : ¬sessions.byName.contains identity.nickname = true := by
    simpa [Directory.contains, findName?] using congrArg Option.isSome free
  simp only [name, if_neg unknown, found, Session.assign, unnamed]
  rfl

theorem reclaim_eq_ok {previous heir : Session} {identity : Identity}
    (found : sessions.get? previous.id = some previous) (found' : sessions.get? heir.id = some heir)
    (carries : previous.identity = some identity) (unnamed : heir.identity = none) :
    sessions.reclaim previous.id heir.id =
      .ok (previous.stripped, sessions.inherited previous heir identity) := by
  have different : previous.id ≠ heir.id := by
    intro same
    rw [same, found'] at found
    cases found
    simp [unnamed] at carries
  simp [reclaim, found, found', unnamed, different, carries, inherited]

theorem get?_named {session : Session} {identity : Identity}
    (found : sessions.get? session.id = some session) (asked : ConnectionId) :
    (sessions.named session identity).get? asked =
      if asked = session.id then
        some { session with identity := some identity, location := .lobby }
      else sessions.get? asked := by
  refine (get?_put sessions { session with identity := some identity, location := .lobby }
    asked).trans ?_
  split
  · next same => rw [same, found, Option.map_some]
  · rfl

theorem get?_inherit {previous heir : Session} (found : sessions.get? heir.id = some heir)
    (different : previous.id ≠ heir.id) (asked : ConnectionId) :
    (({ sessions with live := sessions.live.erase previous.id } : Sessions).put
        (heir.inherit previous)).get? asked =
      if asked = heir.id then some (heir.inherit previous)
      else if asked = previous.id then none
      else sessions.get? asked := by
  have rest : ∀ asked, ({ sessions with live := sessions.live.erase previous.id } : Sessions).get?
      asked = if asked = previous.id then none else sessions.get? asked :=
    fun asked => Directory.get?_erase _ _ _
  refine (get?_put _ (heir.inherit previous) asked).trans ?_
  rw [rest]
  change (if asked = heir.id then _ else _) = _
  split
  · next same => simp [same, found, Ne.symm different]
  · rfl

theorem get?_inherited {previous heir : Session} {identity : Identity}
    (found : sessions.get? heir.id = some heir) (different : previous.id ≠ heir.id)
    (asked : ConnectionId) :
    (sessions.inherited previous heir identity).get? asked =
      if asked = heir.id then some (heir.inherit previous)
      else if asked = previous.id then none
      else sessions.get? asked :=
  get?_inherit found different asked

/-- The register in which one session has taken over the place of another one, and its identity if it
has one. -/
def succeeded (sessions : Sessions) (previous heir : Session) : Sessions :=
  match previous.identity with
  | some identity => sessions.inherited previous heir identity
  | none => ({ sessions with live := sessions.live.erase previous.id }).put (heir.inherit previous)

theorem get?_succeeded {previous heir : Session} (found : sessions.get? heir.id = some heir)
    (different : previous.id ≠ heir.id) (asked : ConnectionId) :
    (sessions.succeeded previous heir).get? asked =
      if asked = heir.id then some (heir.inherit previous)
      else if asked = previous.id then none
      else sessions.get? asked := by
  rw [succeeded]
  split
  · exact get?_inherited found different asked
  · exact get?_inherit found different asked

section Accepted

variable {next rest : Sessions} {old new : ConnectionId} {identity : Identity} {ended : Session}
  (filed : ∀ {id session}, sessions.get? id = some session → session.id = id)

include filed

theorem exists_of_name (accepted : sessions.name id identity = .ok next) :
    ∃ session, sessions.get? session.id = some session ∧ session.identity = none ∧
      sessions.findName? identity.nickname = none ∧ next = sessions.named session identity := by
  unfold name at accepted
  split at accepted
  · cases accepted
  · next unknown =>
    split at accepted
    · cases accepted
    · next session found =>
      have own := filed found
      subst own
      cases carries : session.identity with
      | some other => simp [Session.assign, carries] at accepted
      | none =>
        have free : sessions.findName? identity.nickname = none := by
          simpa [Directory.contains, findName?] using unknown
        simp only [Session.assign, carries, Except.ok.injEq] at accepted
        exact ⟨session, found, carries, free, accepted.symm⟩

theorem exists_of_reclaim (accepted : sessions.reclaim old new = .ok (ended, rest)) :
    ∃ previous heir, sessions.get? old = some previous ∧ sessions.get? new = some heir ∧
      heir.identity = none ∧ old ≠ new ∧ ended = previous.stripped ∧
      rest = sessions.succeeded previous heir := by
  unfold reclaim at accepted
  split at accepted
  · cases accepted
  · next heir found =>
    split at accepted
    · cases accepted
    · next unnamed =>
      split at accepted
      · cases accepted
      · next previous found' =>
        split at accepted
        · cases accepted
        · next different =>
          have own := filed found
          have own' := filed found'
          subst own own'
          cases accepted
          refine ⟨previous, heir, found', found, by simpa using unnamed, different, rfl, ?_⟩
          rw [succeeded]
          rfl

end Accepted

namespace Indexed

theorem unique_player (indexed : sessions.Indexed) {first second : ConnectionId}
    {session later : Session} {player : PlayerId} (found : sessions.get? first = some session)
    (carries : session.player? = some player) (found' : sessions.get? second = some later)
    (carries' : later.player? = some player) : first = second := by
  have leads := (indexed.byPlayer player first).2 ⟨session, found, carries⟩
  have leads' := (indexed.byPlayer player second).2 ⟨later, found', carries'⟩
  exact Option.some.inj (leads.symm.trans leads')

theorem vacant (config : SessionConfig) : (Sessions.vacant config).Indexed where
  filed found := by cases found
  byName key id := by simp [get?, Sessions.vacant]
  byPlayer key id := by simp [get?, Sessions.vacant]

theorem of_alike (indexed : sessions.Indexed) (alike : sessions.Alike other) : other.Indexed where
  filed found := by
    rcases alike.exists_get? found with ⟨earlier, found', same, _, _⟩
    exact same ▸ indexed.filed found'
  byName := alike.byName ▸ indexed.byName.of_alike alike
  byPlayer := alike.byPlayer ▸ indexed.byPlayer.of_alike alike

theorem connect (indexed : sessions.Indexed) (id : ConnectionId) (now : Nanos) :
    (sessions.connect id now).Indexed := by
  cases found : sessions.get? id with
  | some session => rwa [connect_of_get? found]
  | none =>
    have others : ∀ asked, asked ≠ id →
        (sessions.connect id now).get? asked = sessions.get? asked := by
      intro asked other
      rw [get?_connect found, if_neg other]
    have after : ∀ session, (sessions.connect id now).get? id = some session →
        session.identity = none := by
      intro session found'
      rw [get?_connect found, if_pos rfl] at found'
      cases found'
      rfl
    refine ⟨?_, ?_, ?_⟩
    · intro asked session found'
      rw [get?_connect found] at found'
      split at found'
      · next same =>
        cases found'
        exact same.symm
      · exact indexed.filed found'
    · rw [byName_connect]
      exact indexed.byName.of_unnamed others (by simp [found]) after
    · rw [byPlayer_connect]
      exact indexed.byPlayer.of_unnamed others (by simp [found]) after

theorem close (indexed : sessions.Indexed) (id : ConnectionId) :
    (sessions.close id).2.Indexed := by
  have rest := get?_close sessions id
  have filed : ∀ {asked session}, (sessions.close id).2.get? asked = some session →
      session.id = asked := by
    intro asked session found
    rw [rest] at found
    split at found
    · cases found
    · exact indexed.filed found
  cases found : sessions.get? id with
  | none => simpa [Sessions.close, found] using indexed
  | some session =>
    refine ⟨filed, ?_, ?_⟩
    · have released := indexed.byName.close found rest
      simpa [Sessions.close, found, Session.nickname?] using released
    · have released := indexed.byPlayer.close found rest
      simpa [Sessions.close, found, Session.player?] using released

theorem named (indexed : sessions.Indexed) {session : Session} {identity : Identity}
    (found : sessions.get? session.id = some session) (unnamed : session.identity = none)
    (free : sessions.findName? identity.nickname = none)
    (fresh : sessions.findPlayer? identity.player = none) :
    (sessions.named session identity).Indexed where
  filed found' := by
    rw [get?_named found] at found'
    split at found'
    · next same =>
      cases found'
      exact same.symm
    · exact indexed.filed found'
  byName := indexed.byName.name free found unnamed (get?_named found) rfl
  byPlayer := indexed.byPlayer.name fresh found unnamed (get?_named found) rfl

theorem inherited (indexed : sessions.Indexed) {previous heir : Session} {identity : Identity}
    (found : sessions.get? previous.id = some previous) (found' : sessions.get? heir.id = some heir)
    (carries : previous.identity = some identity) (unnamed : heir.identity = none)
    (different : previous.id ≠ heir.id) : (sessions.inherited previous heir identity).Indexed := by
  let rest : Sessions := { sessions with live := sessions.live.erase previous.id }
  have erased : ∀ asked, rest.get? asked =
      if asked = previous.id then none else sessions.get? asked :=
    fun asked => Directory.get?_erase _ _ _
  have heirs : rest.get? heir.id = some heir := by
    rw [erased, if_neg (Ne.symm different), found']
  have after : ∀ asked, (sessions.inherited previous heir identity).get? asked =
      if asked = heir.id then some (heir.inherit previous) else rest.get? asked := by
    intro asked
    rw [get?_inherited found' different, erased]
  -- as far as the indexes go, the heir is named after the one before it was closed
  have taken {κ : Type} [LT κ] [DecidableEq κ] [LE κ] [DecidableLT κ] [Std.IsLinearOrder κ]
      [Std.LawfulOrderLT κ] {index : Directory κ ConnectionId} {field : Identity → κ}
      (isIndex : sessions.IsIndex index field) :
      (sessions.inherited previous heir identity).IsIndex
        (index.insert (field identity) heir.id) field := by
    have closed := isIndex.close found erased
    have owned : index.get? (field identity) = some previous.id :=
      (isIndex _ _).2 ⟨previous, found, by simp [carries]⟩
    rw [carries, Option.map_some] at closed
    rw [← insert_release (field identity) previous.id]
    refine closed.name ?_ heirs unnamed after (by simpa [Session.inherit] using carries)
    rw [get?_release, if_pos ⟨rfl, owned⟩]
  refine ⟨?_, taken indexed.byName, taken indexed.byPlayer⟩
  intro asked session found''
  rw [get?_inherited found' different] at found''
  split at found''
  · next same =>
    cases found''
    exact same.symm
  · split at found''
    · cases found''
    · exact indexed.filed found''

end Indexed

end CardTable.Sessions
