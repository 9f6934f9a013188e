import CardTable.Proofs.Game.InPlace
import CardTable.Proofs.Session.Register

/-!
# The register in place

The register can also be kept in cells, with the nickname and the player of a session in cells of
their own. A session that takes over another one is then written while that one is out of the
register, and has to put it back if there turns out to be nobody to inherit. The file proves that the
cells end up as the register does, and that whatever is refused leaves them as they were.
-/

namespace CardTable

/-- The cells of a session. -/
structure SessionCells where
  id : ConnectionId
  nickname : Option String
  player : Option PlayerId
  location : Location
  incoming : Bytes
  outgoing : Bytes
  presence : Presence

/-- The cells of a register. -/
structure RegisterCells where
  live : Directory ConnectionId SessionCells
  nicknames : Directory String ConnectionId
  players : Directory PlayerId ConnectionId

/-- Something that reads and writes the cells of a register, and may be refused on the way. -/
abbrev RegisterInPlace := EStateM SessionError RegisterCells

def Session.cells (session : Session) : SessionCells where
  id := session.id
  nickname := session.nickname?
  player := session.player?
  location := session.location
  incoming := session.incoming
  outgoing := session.outgoing
  presence := session.presence

def Sessions.cells (sessions : Sessions) : RegisterCells where
  live := sessions.live.mapEntries fun _ => Session.cells
  nicknames := sessions.byName
  players := sessions.byPlayer

namespace RegisterCells

/-! ## The operations, write by write -/

/-- Writes in the cells of one session. -/
def write (id : ConnectionId) (change : SessionCells → SessionCells) : RegisterInPlace Unit :=
  modify fun cells => { cells with live := cells.live.modify id change }

/-- Leads a nickname and a player to a connection, as far as there are any. -/
def point (nickname : Option String) (player : Option PlayerId) (id : ConnectionId) :
    RegisterInPlace Unit := do
  modify fun cells => match nickname with
    | none => cells
    | some nickname => { cells with nicknames := cells.nicknames.insert nickname id }
  modify fun cells => match player with
    | none => cells
    | some player => { cells with players := cells.players.insert player id }

/-- Frees a nickname and a player, if there are any and they lead to the connection. -/
def free (nickname : Option String) (player : Option PlayerId) (id : ConnectionId) :
    RegisterInPlace Unit := do
  modify fun cells => { cells with nicknames := Sessions.release cells.nicknames nickname id }
  modify fun cells => { cells with players := Sessions.release cells.players player id }

def close (id : ConnectionId) : RegisterInPlace (Option SessionCells) := do
  match (← get).live.get? id with
  | none => return none
  | some session =>
    modify fun cells => { cells with live := cells.live.erase id }
    free session.nickname session.player id
    return some session

/-- Gives the session that was found at a connection its identity. -/
def assign (id : ConnectionId) (session : SessionCells) (identity : Identity) :
    RegisterInPlace Unit :=
  if session.nickname.isSome then throw (.alreadyNamed session.id)
  else do
    write id fun cells => { cells with nickname := some identity.nickname }
    write id fun cells => { cells with player := some identity.player }
    write id fun cells => { cells with location := .lobby }

def name (id : ConnectionId) (identity : Identity) : RegisterInPlace Unit := do
  let register ← get
  if register.nicknames.contains identity.nickname then
    throw (.nicknameTaken identity.nickname)
  else
    match register.live.get? id with
    | none => throw (.notFound id)
    | some session =>
      assign id session identity
      point (some identity.nickname) (some identity.player) id

/-- Moves nickname, player and place over from a session that is out of the register. -/
def inherit (previous : SessionCells) (id : ConnectionId) : RegisterInPlace SessionCells := do
  write id fun cells => { cells with nickname := previous.nickname }
  write id fun cells => { cells with player := previous.player }
  write id fun cells => { cells with location := previous.location }
  return { previous with nickname := none, player := none, location := .unnamed }

/-- Takes the old session out before the new one is looked up again, and puts it back if there is no
new one any more. -/
def reclaim (old new : ConnectionId) : RegisterInPlace SessionCells := do
  match (← get).live.get? new with
  | none => throw (.notFound new)
  | some heir =>
    if heir.nickname.isSome then throw (.alreadyNamed new)
    else
      match (← get).live.get? old with
      | none => throw (.notFound old)
      | some previous =>
        modify fun cells => { cells with live := cells.live.erase old }
        match (← get).live.get? new with
        | none =>
          modify fun cells => { cells with live := cells.live.insert old previous }
          throw (.notFound new)
        | some _ =>
          let stripped ← inherit previous new
          point previous.nickname previous.player new
          return stripped

/-! ## Agreement -/

/-- What is done in place agrees with what the register does: if it is accepted, it has the same
value and leaves the cells of the register after it, and if it is refused, it is refused for the same
reason, with every cell as it was. -/
def Agrees {α : Type} (sessions : Sessions) (outcome : Except SessionError (α × Sessions)) :
    EStateM.Result SessionError RegisterCells α → Prop
  | .ok value cells => ∃ next, outcome = .ok (value, next) ∧ cells = next.cells
  | .error error cells => outcome = .error error ∧ cells = sessions.cells

variable {sessions : Sessions} {id old new : ConnectionId}

theorem agrees_of_eq {α : Type} {value : α} {cells : RegisterCells} {next : Sessions}
    (same : cells = next.cells) : Agrees sessions (.ok (value, next)) (.ok value cells) :=
  ⟨next, rfl, same⟩

theorem agrees_of_error {α : Type} (error : SessionError) :
    Agrees sessions (.error error : Except SessionError (α × Sessions))
      (.error error sessions.cells) :=
  ⟨rfl, rfl⟩

theorem get?_cells (sessions : Sessions) (id : ConnectionId) :
    sessions.cells.live.get? id = (sessions.get? id).map Session.cells :=
  Directory.get?_mapEntries _ _ _

theorem point_eq (cells : RegisterCells) (nickname : Option String) (player : Option PlayerId)
    (id : ConnectionId) :
    point nickname player id cells = .ok () { cells with
      nicknames := nickname.elim cells.nicknames (cells.nicknames.insert · id)
      players := player.elim cells.players (cells.players.insert · id) } := by
  cases nickname <;> cases player <;> rfl

theorem free_eq (cells : RegisterCells) (nickname : Option String) (player : Option PlayerId)
    (id : ConnectionId) :
    free nickname player id cells = .ok () { cells with
      nicknames := Sessions.release cells.nicknames nickname id
      players := Sessions.release cells.players player id } := rfl

/-- Three writes in the same session are one. -/
theorem modify_identity (live : Directory ConnectionId SessionCells) (id : ConnectionId)
    (nickname : Option String) (player : Option PlayerId) (location : Location) :
    (((live.modify id fun cells => { cells with nickname }).modify id fun cells =>
      { cells with player }).modify id fun cells => { cells with location }) =
      live.modify id fun cells => { cells with nickname, player, location } := by
  apply Directory.ext_get?
  intro asked
  simp only [Directory.get?_modify]
  split
  · cases live.get? asked <;> rfl
  · rfl

theorem assign_eq (cells : RegisterCells) {session : SessionCells}
    (unnamed : session.nickname = none) (identity : Identity) :
    assign id session identity cells = .ok () { cells with
      live := cells.live.modify id fun cells => { cells with
        nickname := some identity.nickname
        player := some identity.player
        location := .lobby } } := by
  rw [assign, unnamed, ← modify_identity]
  rfl

theorem inherit_eq (cells : RegisterCells) (previous : SessionCells) (id : ConnectionId) :
    inherit previous id cells =
      .ok { previous with nickname := none, player := none, location := .unnamed } { cells with
        live := cells.live.modify id fun cells => { cells with
          nickname := previous.nickname
          player := previous.player
          location := previous.location } } := by
  rw [← modify_identity]
  rfl

theorem mapEntries_erase (live : Directory ConnectionId Session) (id : ConnectionId) :
    (live.mapEntries fun _ => Session.cells).erase id =
      (live.erase id).mapEntries fun _ => Session.cells := by
  apply Directory.ext_get?
  intro asked
  rw [Directory.get?_erase, Directory.get?_mapEntries, Directory.get?_mapEntries,
    Directory.get?_erase]
  split <;> rfl

theorem close_agrees (sessions : Sessions) (id : ConnectionId) :
    Agrees sessions (.ok ((sessions.close id).1.map Session.cells, (sessions.close id).2))
      (close id sessions.cells) := by
  rw [close, bind_of_ok (get_eq _), get?_cells, Sessions.close]
  cases found : sessions.get? id with
  | none => exact agrees_of_eq rfl
  | some session =>
    simp only [Option.map_some]
    rw [bind_of_ok (modify_eq _ _), bind_of_ok (free_eq _ _ _ _)]
    refine agrees_of_eq ?_
    simp only [Sessions.cells, mapEntries_erase]
    rfl

/-- The cells of a session that has changed its identity and its place. -/
theorem mapEntries_put {session changed : Session} (found : sessions.get? id = some session)
    (filed : changed.id = id) (nickname : Option String) (player : Option PlayerId)
    (location : Location)
    (same : { session.cells with nickname, player, location } = changed.cells) :
    ((sessions.live.mapEntries fun _ => Session.cells).modify id fun cells =>
        { cells with nickname, player, location }) =
      (sessions.put changed).live.mapEntries fun _ => Session.cells := by
  apply Directory.ext_get?
  intro asked
  rw [Directory.get?_modify, Directory.get?_mapEntries, Directory.get?_mapEntries]
  change _ = ((sessions.put changed).get? asked).map _
  rw [Sessions.get?_put_of_get? found filed]
  split
  · next here =>
    subst here
    change Option.map _ ((sessions.get? asked).map _) = _
    rw [found, Option.map_some, Option.map_some, Option.map_some, same]
  · rfl

theorem name_agrees (filed : ∀ {id session}, sessions.get? id = some session → session.id = id)
    (id : ConnectionId) (identity : Identity) :
    Agrees sessions ((sessions.name id identity).map ((), ·)) (name id identity sessions.cells) := by
  rw [name, bind_of_ok (get_eq _), get?_cells, Sessions.name]
  change Agrees sessions _ ((if sessions.byName.contains identity.nickname then _ else _ :
    RegisterInPlace Unit) _)
  split
  · exact agrees_of_error _
  · cases found : sessions.get? id with
    | none => exact agrees_of_error _
    | some session =>
      simp only [Option.map_some, Session.assign]
      cases carries : session.identity with
      | some other =>
        have named : session.cells.nickname.isSome = true := by
          simp [Session.cells, Session.nickname?, carries]
        have refused : assign id session.cells identity sessions.cells =
            .error (.alreadyNamed session.id) sessions.cells := by
          rw [assign, if_pos named]
          rfl
        rw [bind_of_error refused]
        exact agrees_of_error _
      | none =>
        have unnamed : session.cells.nickname = none := by
          simp [Session.cells, Session.nickname?, carries]
        rw [bind_of_ok (assign_eq _ unnamed _), point_eq]
        refine agrees_of_eq ?_
        have number := filed found
        have live := @mapEntries_put _ _ session
          { session with identity := some identity, location := .lobby } found number
          (some identity.nickname) (some identity.player) .lobby rfl
        simp only [Sessions.cells, live]
        rfl

theorem insert_erase {live : Directory ConnectionId SessionCells} {session : SessionCells}
    (found : live.get? id = some session) : (live.erase id).insert id session = live := by
  apply Directory.ext_get?
  intro asked
  rw [Directory.get?_insert, Directory.get?_erase]
  split
  · next here => rw [here, found]
  · rfl

/-- The cells once the identity and the place of one session have gone over to another one. -/
theorem cells_inherit {heir : Session} (found : sessions.get? new = some heir)
    (filed : heir.id = new) (different : old ≠ new) (previous : Session) :
    let rest : Sessions := { sessions with live := sessions.live.erase old }
    let moved := rest.put (heir.inherit previous)
    ({ live := (sessions.cells.live.erase old).modify new fun cells => { cells with
         nickname := previous.nickname?
         player := previous.player?
         location := previous.location }
       nicknames := previous.nickname?.elim sessions.byName (sessions.byName.insert · new)
       players := previous.player?.elim sessions.byPlayer (sessions.byPlayer.insert · new) } :
        RegisterCells) =
      (match previous.identity with
        | some identity => moved.enter new identity
        | none => moved).cells := by
  intro rest moved
  have heirs : rest.get? new = some heir := by
    change (sessions.live.erase old).get? new = _
    rw [Directory.get?_erase, if_neg (Ne.symm different)]
    exact found
  have live := @mapEntries_put rest new heir (heir.inherit previous) heirs filed
    previous.nickname? previous.player? previous.location rfl
  simp only [Sessions.cells, mapEntries_erase]
  rw [live]
  cases carries : previous.identity with
  | none =>
    simp only [Session.nickname?, Session.player?, carries, Option.map_none, Option.elim_none]
    rfl
  | some identity =>
    simp only [Session.nickname?, Session.player?, carries, Option.map_some, Option.elim_some]
    rfl

theorem reclaim_agrees (filed : ∀ {id session}, sessions.get? id = some session → session.id = id)
    (old new : ConnectionId) :
    Agrees sessions ((sessions.reclaim old new).map fun (ended, rest) => (ended.cells, rest))
      (reclaim old new sessions.cells) := by
  rw [reclaim, bind_of_ok (get_eq _), get?_cells, Sessions.reclaim]
  cases found : sessions.get? new with
  | none => exact agrees_of_error _
  | some heir =>
    have named : heir.cells.nickname.isSome = heir.identity.isSome := by
      simp [Session.cells, Session.nickname?]
    simp only [Option.map_some, named]
    split
    · exact agrees_of_error _
    · rw [bind_of_ok (get_eq _), get?_cells]
      cases found' : sessions.get? old with
      | none => exact agrees_of_error _
      | some previous =>
        simp only [Option.map_some]
        rw [bind_of_ok (modify_eq _ _), bind_of_ok (get_eq _)]
        simp only [Directory.get?_erase, get?_cells, found]
        by_cases same : old = new
        · -- The session that was taken out is the one that should inherit, and goes back.
          subst same
          have restored : (sessions.cells.live.erase old).insert old previous.cells =
              sessions.cells.live := insert_erase (by rw [get?_cells, found', Option.map_some])
          simp only [if_true]
          rw [bind_of_ok (modify_eq _ _)]
          simp only [restored]
          exact agrees_of_error _
        · simp only [if_neg same, if_neg (Ne.symm same), Option.map_some]
          rw [bind_of_ok (inherit_eq _ _ _), bind_of_ok (point_eq _ _ _ _)]
          exact @agrees_of_eq sessions _ previous.stripped.cells _ _
            (cells_inherit found (filed found) same previous)

end RegisterCells

end CardTable
