import CardTable.Proofs.Server.Keeping
import CardTable.Proofs.Server.Returning
import Mathlib.Logic.Relation

/-!
# Who carries a player

A player is carried by one connection, and by another one when the first has fallen asleep and the
nickname is asked for anew. Whatever else happens on a server, this is the only way in which a
player changes connections, and the player keeps the nickname, the seat and the hand, however often
it happens.
-/

namespace CardTable.Server

variable {server next later : Server} {id asked : ConnectionId} {session heir : Session}
  {player : PlayerId} {identity : Identity} {config : ServerConfig} {deals : List Deal}

/-! ## Steps -/

/-- What a step does to who carries whom: nothing, or a connection comes, or asks for a name, or for
something else, or ends. -/
inductive Turnover (server next : Server) : Prop
  | calm (people : server.SamePeople next) (issued : next.nextPlayer = server.nextPlayer)
      (lobby : next.lobby = server.lobby)
  | arrives {id : ConnectionId} {now : Nanos} (missing : server.sessions.get? id = none)
      (after : ∀ other, next.sessions.get? other =
        if other = id then some (.fresh id now) else server.sessions.get? other)
      (issued : next.nextPlayer = server.nextPlayer) (lobby : next.lobby = server.lobby)
  | names {heir : Session} {nickname : String}
      (live : server.sessions.get? heir.id = some heir) (unnamed : heir.identity = none)
      (naming : server.Naming heir nickname next)
  | asks {id : ConnectionId} {frame : Wire.Frame} {request : Request}
      (read : Request.ofWords frame = .ok request) (served : server.dispatch id frame = .ok next)
      (keeps : server.KeepsPlayers next id (request.GivesUp = true))
  | ends (id : ConnectionId) (reason : EndReason) (ended : next = server.terminate id reason)

theorem turnover_of_alike (alike : server.sessions.Alike next.sessions)
    (issued : next.nextPlayer = server.nextPlayer) (lobby : next.lobby = server.lobby) :
    server.Turnover next :=
  .calm (samePeople_of_alike alike) issued lobby

theorem Step.turnover (step : server.Step next) (linked : server.Linked) :
    server.Turnover next := by
  have put {id : ConnectionId} {session changed : Session}
      (found : server.sessions.get? id = some session)
      (standing : changed.standing = session.standing) :
      server.Turnover { server with sessions := server.sessions.put changed } :=
    turnover_of_alike (Sessions.alike_put found (linked.indexed.filed found) standing) rfl rfl
  cases step with
  | begin | ping | collect => exact turnover_of_alike (.refl _) rfl rfl
  | finish => exact turnover_of_alike (Sessions.alike_deliver _ _) rfl rfl
  | accept id now =>
    have lobby : (server.acceptCore id now).lobby = server.lobby := by
      unfold acceptCore
      split <;> rfl
    have issued : (server.acceptCore id now).nextPlayer = server.nextPlayer := by
      unfold acceptCore
      split <;> rfl
    rcases server.get?_acceptCore id now with same | ⟨missing, after⟩
    · exact .calm (samePeople_of_eq same) issued lobby
    · exact .arrives missing after issued lobby
  | fill found arrivals now => exact put found (Session.standing_receive _ _ arrivals now)
  | read found arrivals now =>
    exact put found ((Session.standing_takeFrames _).trans
      (Session.standing_receive _ _ arrivals now))
  | drain found uptake => exact put found (Session.standing_transmit _ uptake)
  | wake id =>
    rw [tellWake_eq_saying]
    exact turnover_of_alike (.refl _) rfl rfl
  | @serve id frame _ served =>
    rcases exists_of_dispatch served with ⟨session, request, live, read, done⟩
    by_cases name : ∃ nickname, request = .name nickname
    · rcases name with ⟨nickname, rfl⟩
      rcases naming_of_name linked live done with ⟨rfl, unnamed, naming⟩
      exact .names live unnamed naming
    · exact .asks read served (keepsPlayers_of_request linked live done (not_exists.1 name))
  | terminate id reason => exact .ends id reason rfl
  | beat now => exact turnover_of_alike (Sessions.alike_beat _ now) rfl rfl
  | react event =>
    rcases event with ⟨id, _ | _⟩
    · simp only [Server.react, tellRoom_eq_saying]
      split <;> exact turnover_of_alike (.refl _) rfl rfl
    · exact .ends id .silence rfl

/-! ## Where a player comes from -/

/-- Some connection carries a player under a nickname. -/
def HasCarrier (server : Server) (identity : Identity) : Prop :=
  ∃ id session, server.sessions.get? id = some session ∧ session.identity = some identity

/-- How a connection comes to carry a player after a step: it has carried it before, or the player
is a new one, or it takes the place of a sleeper, which is gone then, while nothing happens in the
rooms. -/
inductive CarriedFrom (server next : Server) (asked : ConnectionId) (identity : Identity) : Prop
  | stays {session : Session} (live : server.sessions.get? asked = some session)
      (carries : session.identity = some identity)
  | given {session : Session} (live : server.sessions.get? asked = some session)
      (unnamed : session.identity = none) (issued : identity.player = server.nextPlayer)
  | moves {owner : ConnectionId} {previous session : Session}
      (live : server.sessions.get? owner = some previous)
      (carries : previous.identity = some identity) (asleep : previous.isAwake = false)
      (live' : server.sessions.get? asked = some session) (unnamed : session.identity = none)
      (gone : next.sessions.get? owner = none) (lobby : next.lobby = server.lobby)

theorem carriedFrom_of_people (people : server.SamePeople next)
    (live : next.sessions.get? asked = some session) (carries : session.identity = some identity) :
    server.CarriedFrom next asked identity := by
  have same := people.identity asked
  rw [live, Option.map_some, eq_comm, Option.map_eq_some_iff] at same
  rcases same with ⟨earlier, live', carries'⟩
  exact .stays live' (carries'.trans carries)

theorem carriedFrom_of_naming {nickname : String}
    (found : server.sessions.get? heir.id = some heir) (unnamed : heir.identity = none)
    (naming : server.Naming heir nickname next) (live : next.sessions.get? asked = some session)
    (carries : session.identity = some identity) : server.CarriedFrom next asked identity := by
  cases naming with
  | refused => exact .stays live carries
  | fresh =>
    replace live := (Sessions.get?_named found asked).symm.trans live
    split at live
    · next same =>
      cases live
      cases carries
      exact .given (same ▸ found) unnamed rfl
    · exact .stays live carries
  | @inherited previous owned live' carries' _ asleep different =>
    rw [tellWake_eq_saying] at live ⊢
    have after := @Sessions.get?_inherited _ previous heir owned found different
    replace live := (after asked).symm.trans live
    split at live
    · next same =>
      cases live
      subst same
      exact .moves live' carries asleep found unnamed
        ((after _).trans ((if_neg different).trans (if_pos rfl))) rfl
    · split at live
      · cases live
      · exact .stays live carries

/-- There is no other way for a connection to come to carry a player. -/
theorem Step.carriedFrom (step : server.Step next) (linked : server.Linked)
    (live : next.sessions.get? asked = some session) (carries : session.identity = some identity) :
    server.CarriedFrom next asked identity := by
  cases step.turnover linked with
  | calm people => exact carriedFrom_of_people people live carries
  | arrives _ after =>
    rw [after] at live
    split at live
    · cases live
      cases carries
    · exact .stays live carries
  | names found unnamed naming => exact carriedFrom_of_naming found unnamed naming live carries
  | asks _ _ keeps => exact carriedFrom_of_people keeps.people live carries
  | ends id reason ended =>
    rw [ended, sessions_terminate, Sessions.get?_close] at live
    split at live
    · cases live
    · exact .stays live carries

theorem Step.nextPlayer_le (step : server.Step next) (linked : server.Linked) :
    server.nextPlayer ≤ next.nextPlayer := by
  cases step.turnover linked with
  | calm _ issued => exact issued.ge
  | arrives _ _ issued => exact issued.ge
  | names _ _ naming =>
    cases naming with
    | refused => exact le_rfl
    | fresh => exact Nat.le_succ _
    | inherited =>
      rw [tellWake_eq_saying]
      exact le_rfl
  | asks _ _ keeps => exact keeps.issued.ge
  | ends id reason ended =>
    rw [ended]
    exact (spares_of_terminate linked id reason).1.ge

/-! ## What becomes of a player -/

/-- A player's own connection gives up what the player has. -/
inductive OwnDeed (server : Server) (player : PlayerId) : Server → Prop
  | asks {id : ConnectionId} {frame : Wire.Frame} {request : Request} {next : Server}
      (leads : server.sessions.findPlayer? player = some id)
      (read : Request.ofWords frame = .ok request) (gives : request.GivesUp = true)
      (served : server.dispatch id frame = .ok next) : OwnDeed server player next
  | ends {id : ConnectionId} (leads : server.sessions.findPlayer? player = some id)
      (reason : EndReason) : OwnDeed server player (server.terminate id reason)

theorem HasCarrier.of_stays (carried : server.HasCarrier identity)
    (stays : ∀ {id session}, server.sessions.get? id = some session →
      session.identity = some identity → next.sessions.get? id = some session) :
    next.HasCarrier identity := by
  rcases carried with ⟨id, session, live, carries⟩
  exact ⟨id, session, stays live carries, carries⟩

theorem SamePeople.hasCarrier (people : server.SamePeople next)
    (carried : server.HasCarrier identity) : next.HasCarrier identity := by
  rcases carried with ⟨id, session, live, carries⟩
  have same := people.identity id
  rw [live, Option.map_some, Option.map_eq_some_iff] at same
  rcases same with ⟨later, live', carries'⟩
  exact ⟨id, later, live', carries'.trans carries⟩

theorem hasCarrier_of_naming {nickname : String}
    (found : server.sessions.get? heir.id = some heir) (unnamed : heir.identity = none)
    (naming : server.Naming heir nickname next) (carried : server.HasCarrier identity) :
    next.HasCarrier identity := by
  rcases carried with ⟨id, session, live, carries⟩
  have apart : id ≠ heir.id := by
    rintro rfl
    cases found.symm.trans live
    cases unnamed.symm.trans carries
  cases naming with
  | refused => exact ⟨id, session, live, carries⟩
  | fresh =>
    exact ⟨id, session, (Sessions.get?_named found id).trans ((if_neg apart).trans live), carries⟩
  | @inherited previous owned live' carries' _ _ different =>
    rw [tellWake_eq_saying]
    have after := @Sessions.get?_inherited _ previous heir owned found different
    by_cases same : id = previous.id
    · subst same
      cases live'.symm.trans live
      exact ⟨heir.id, _, (after _).trans (if_pos rfl), carries⟩
    · exact ⟨id, session, (after id).trans ((if_neg apart).trans ((if_neg same).trans live)),
        carries⟩

theorem Naming.lobby {nickname : String} (naming : server.Naming heir nickname next) :
    next.lobby = server.lobby := by
  cases naming with
  | refused | fresh => rfl
  | inherited =>
    rw [tellWake_eq_saying]
    rfl

/-- A player that somebody carries is carried on, with the seat and the hand, unless its own
connection gives them up. -/
theorem Step.spares (step : server.Step next) (linked : server.Linked)
    (carried : server.HasCarrier identity) (others : ¬server.OwnDeed identity.player next) :
    next.HasCarrier identity ∧ server.lobby.Spares next.lobby identity.player := by
  cases step.turnover linked with
  | calm people _ lobby => exact ⟨people.hasCarrier carried, lobby ▸ .refl _ _⟩
  | @arrives id _ missing after _ lobby =>
    refine ⟨carried.of_stays fun {other session} live _ => ?_, lobby ▸ .refl _ _⟩
    have apart : other ≠ id := by
      rintro rfl
      cases missing.symm.trans live
    exact (after other).trans ((if_neg apart).trans live)
  | names found unnamed naming =>
    exact ⟨hasCarrier_of_naming found unnamed naming carried, naming.lobby ▸ .refl _ _⟩
  | asks read served keeps =>
    exact ⟨keeps.people.hasCarrier carried,
      keeps.spares _ fun gives leads => others (.asks leads read gives served)⟩
  | ends id reason ended =>
    subst ended
    have elsewhere : server.sessions.findPlayer? identity.player ≠ some id :=
      fun leads => others (.ends leads reason)
    refine ⟨carried.of_stays fun {other session} live carries => ?_,
      (spares_of_terminate linked id reason).2 _ elsewhere⟩
    have apart : other ≠ id := by
      rintro rfl
      exact elsewhere (linked.known live carries).1
    rw [sessions_terminate, Sessions.get?_close, if_neg apart, live]

/-- Coming back is nobody's own deed: no player gives up anything by it. -/
theorem not_ownDeed_of_replaced {owner : ConnectionId} (linked : server.Linked)
    (closings : next.closings = server.closings ++ [{ connection := owner, cause := .replaced }])
    (player : PlayerId) : ¬server.OwnDeed player next := by
  intro deed
  cases deed with
  | @asks id frame request _ _ read gives served =>
    rcases exists_of_dispatch served with ⟨session, request', _, read', done⟩
    cases read.symm.trans read'
    have other : ∀ nickname, request ≠ .name nickname := by
      rintro nickname rfl
      cases gives
    have steady := steady_request server id other
    rw [done] at steady
    have same := closings.symm.trans steady.closings
    simp at same
  | @ends id leads reason =>
    rcases (linked.indexed.byPlayer player id).1 leads with ⟨session, live, _⟩
    rw [closings_terminate live reason] at closings
    cases List.append_cancel_left closings

/-! ## Runs -/

/-- A player that has been given out is carried only as is `allowed`. -/
structure Confines (server : Server) (player : PlayerId)
    (allowed : ConnectionId → Identity → Prop) : Prop where
  linked : server.Linked
  issued : player < server.nextPlayer
  allowed : ∀ {id session identity}, server.sessions.get? id = some session →
    session.identity = some identity → identity.player = player → allowed id identity

theorem confines_of_carried {allowed : ConnectionId → Identity → Prop} (linked : server.Linked)
    (live : server.sessions.get? id = some session) (carries : session.identity = some identity)
    (allows : allowed id identity) : server.Confines identity.player allowed := by
  refine ⟨linked, (linked.fits live).issued (Session.player?_of_identity carries), ?_⟩
  intro other session' identity' live' carries' same
  have here := linked.indexed.unique_player live (Session.player?_of_identity carries) live'
    ((Session.player?_of_identity carries').trans (congrArg some same))
  subst here
  cases live.symm.trans live'
  cases carries.symm.trans carries'
  exact allows

/-- What confines a player is kept if it is by those who take the place of sleepers. -/
theorem Confines.step {allowed : ConnectionId → Identity → Prop}
    (confines : server.Confines player allowed) (step : server.Step next)
    (moves : ∀ {owner previous identity asked}, server.sessions.get? owner = some previous →
      previous.identity = some identity → identity.player = player → previous.isAwake = false →
      allowed owner identity → allowed asked identity) : next.Confines player allowed := by
  have issued := confines.issued.trans_le (step.nextPlayer_le confines.linked)
  refine ⟨step.linked confines.linked, issued, fun live carries same => ?_⟩
  cases step.carriedFrom confines.linked live carries with
  | stays live' carries' => exact confines.allowed live' carries' same
  | given _ _ new => exact absurd confines.issued (same ▸ new ▸ lt_irrefl _)
  | moves live' carries' asleep =>
    exact moves live' carries' same asleep (confines.allowed live' carries' same)

/-- Whoever carries a player is awake. -/
def IsWakeful (server : Server) (player : PlayerId) : Prop :=
  ∀ id session, server.sessions.get? id = some session → session.player? = some player →
    session.isAwake = true

/-- While its carrier is awake, a player does not come to another connection. -/
theorem confines_of_wakeful
    (path : Relation.ReflTransGen
      (fun earlier after => earlier.Step after ∧ earlier.IsWakeful player) server later)
    (confines : server.Confines player fun asked _ => asked = id) :
    later.Confines player fun asked _ => asked = id := by
  induction path with
  | refl => exact confines
  | tail _ last ih =>
    rcases last with ⟨step, wakeful⟩
    refine ih.step step fun live carries same asleep _ => ?_
    have awake := wakeful _ _ live
      ((Session.player?_of_identity carries).trans (congrArg some same))
    cases awake.symm.trans asleep

/-- A player has one nickname for ever. -/
theorem confines_of_steps (path : Relation.ReflTransGen Step server later)
    (confines : server.Confines player fun _ carried => carried = identity) :
    later.Confines player fun _ carried => carried = identity := by
  induction path with
  | refl => exact confines
  | tail _ step ih => exact ih.step step fun _ _ _ _ same => same

/-- Whatever happens but the deeds of its own connection, a player is carried on, with the seat and
the hand. -/
theorem spares_of_steps (linked : server.Linked) (carried : server.HasCarrier identity)
    (path : Relation.ReflTransGen
      (fun earlier after => earlier.Step after ∧ ¬earlier.OwnDeed identity.player after)
      server later) :
    later.Linked ∧ later.HasCarrier identity ∧
      server.lobby.Spares later.lobby identity.player := by
  induction path with
  | refl => exact ⟨linked, carried, .refl _ _⟩
  | tail _ last ih =>
    rcases last with ⟨step, others⟩
    rcases ih with ⟨linked', carried', spares⟩
    rcases step.spares linked' carried' others with ⟨after, spares'⟩
    exact ⟨step.linked linked', after, spares.trans spares'⟩

/-! ## Coming back -/

/-- Asking for a nickname that somebody has moves the player to the connection that asks if the
owner is asleep, and moves nothing else; and players move in no other way. -/
structure MovesIdentities (server : Server) : Prop where
  /-- If the owner is awake, the one who asks hears that the nickname cannot be had; nothing else
  happens. -/
  refuses : ∀ {id owner session previous nickname frame},
    server.AsksForNameOf id owner session previous nickname frame → previous.isAwake = true →
    ∃ next, server.dispatch id frame = .ok next ∧ next = { server with said := next.said } ∧
      next.sessionOf? id = some (session.send (.fail .name)) ∧
      ∀ other, other ≠ id → next.sessionOf? other = server.sessionOf? other
  /-- If not, the one who asks is given what the owner has, and no player gives up anything. -/
  resumes : ∀ {id owner session previous nickname frame},
    server.AsksForNameOf id owner session previous nickname frame → previous.isAwake = false →
    ∃ next identity, server.dispatch id frame = .ok next ∧ previous.identity = some identity ∧
      identity.nickname = nickname ∧ server.Resumes next id owner session previous identity ∧
      ∀ player, ¬server.OwnDeed player next
  /-- Whoever carries a player has carried it before, or is its first carrier, or takes the place of
  a sleeper. -/
  carried : ∀ {next asked session identity}, server.Step next →
    next.sessions.get? asked = some session → session.identity = some identity →
    server.CarriedFrom next asked identity
  /-- As long as its carrier is awake, a player does not come to another connection. -/
  steady : ∀ {later id session player}, server.sessions.get? id = some session →
    session.player? = some player →
    Relation.ReflTransGen
      (fun earlier after => earlier.Step after ∧ earlier.IsWakeful player) server later →
    ∀ {asked session'}, later.sessions.get? asked = some session' →
      session'.player? = some player → asked = id
  /-- Whatever happens, nobody carries a player under another nickname. -/
  lasting : ∀ {later identity identity'}, server.HasCarrier identity →
    Relation.ReflTransGen Step server later → later.HasCarrier identity' →
    identity'.player = identity.player → identity' = identity
  /-- However often connections come, go and come back, a player that somebody carries is carried
  on, with the seat and the hand, until its own connection gives them up. -/
  keeps : ∀ {later identity}, server.HasCarrier identity →
    Relation.ReflTransGen
      (fun earlier after => earlier.Step after ∧ ¬earlier.OwnDeed identity.player after)
      server later →
    later.HasCarrier identity ∧ server.lobby.Spares later.lobby identity.player

theorem identities_moved_on_return (reachable : Reachable config deals server) :
    server.MovesIdentities where
  refuses {id _ session _ _ _} asks awake := by
    refine ⟨_, (asks.dispatch reachable.linked).1 awake, rfl, ?_, fun other apart => ?_⟩
    · rw [sessionOf?_tell, if_pos rfl, asks.found, Option.map_some]
    · rw [sessionOf?_tell, if_neg apart]
  resumes asks asleep := by
    rcases (asks.dispatch reachable.linked).2 asleep with
      ⟨next, identity, dispatched, carries, named, resumed⟩
    exact ⟨next, identity, dispatched, carries, named, resumed,
      not_ownDeed_of_replaced reachable.linked resumed.closings⟩
  carried step := step.carriedFrom reachable.linked
  steady {later id session player} live carries path asked session' live' carries' := by
    rcases Option.map_eq_some_iff.1 carries with ⟨identity, known, rfl⟩
    rcases Option.map_eq_some_iff.1 carries' with ⟨identity', known', same⟩
    have confines := confines_of_wakeful path
      (confines_of_carried reachable.linked live known rfl)
    exact confines.allowed live' known' same
  lasting carried path carried' same := by
    rcases carried with ⟨id, session, live, carries⟩
    rcases carried' with ⟨asked, later, live', carries'⟩
    have confines := confines_of_steps path (confines_of_carried reachable.linked live carries rfl)
    exact confines.allowed live' carries' same
  keeps carried path := (spares_of_steps reachable.linked carried path).2

/-- Bob has fallen asleep in his game with Ann when a third connection comes: it cannot have Ann's
nickname, but it can have his, and Bob has his hand there. -/
theorem bob_moved_on_return :
    let server := (start ServerConfig.standard.validated []).run (duel ++ [.accept 3 (.ofMillis 5001)])
    let bob : Identity := { nickname := "Bob", player := 2 }
    let hand : List Card := [⟨.diamonds, .king⟩, ⟨.diamonds, .unter⟩, ⟨.diamonds, .nine⟩,
      ⟨.diamonds, .seven⟩]
    Reachable .standard [] server ∧
      (∃ next, server.dispatch 3 ["NAME", "Ann"] = .ok next ∧
        next.sessionOf? 1 = server.sessionOf? 1) ∧
      ∃ next session previous, server.dispatch 3 ["NAME", "Bob"] = .ok next ∧
        server.Resumes next 3 2 session previous bob ∧ next.HasCarrier bob ∧
        next.lobby.HoldsHand 0 2 hand := by
  intro server bob hand
  have reachable : Reachable .standard [] server := Reachable.start.run _
  have returns := identities_moved_on_return reachable
  have asks {owner : ConnectionId} {nickname : String}
      (read : Request.ofWords ["NAME", nickname] = .ok (.name nickname))
      (taken : (server.sessionOf? owner).bind Session.nickname? = some nickname) :
      ∃ session previous,
        server.AsksForNameOf 3 owner session previous nickname ["NAME", nickname] := by
    have fresh : (server.sessionOf? 3).map Session.location = some .unnamed := by decide +kernel
    rcases Option.map_eq_some_iff.1 fresh with ⟨session, found, unnamed⟩
    rcases Option.bind_eq_some_iff.1 taken with ⟨previous, found', named⟩
    exact ⟨session, previous, found, unnamed, read, found', named⟩
  rcases @asks 1 "Ann" (by rfl) (by decide +kernel) with ⟨_, ann, ann_asked⟩
  rcases @asks 2 "Bob" (by rfl) (by decide +kernel) with ⟨session, previous, bob_asked⟩
  have wakeful : (server.sessionOf? 1).map Session.isAwake = some true := by decide +kernel
  have sleeping : (server.sessionOf? 2).map (fun session => (session.isAwake, session.identity)) =
      some (false, some bob) := by decide +kernel
  rw [ann_asked.found', Option.map_some, Option.some_inj] at wakeful
  rw [bob_asked.found', Option.map_some, Option.some_inj, Prod.mk.injEq] at sleeping
  rcases returns.refuses ann_asked wakeful with ⟨refused, dispatched, _, _, alone⟩
  rcases returns.resumes bob_asked sleeping.1 with
    ⟨next, identity, dispatched', carries, _, resumed, others⟩
  cases sleeping.2.symm.trans carries
  have carried : server.HasCarrier bob := by
    have known : (server.sessions.get? 2).bind Session.identity = some bob := by decide +kernel
    rcases Option.bind_eq_some_iff.1 known with ⟨earlier, live, carries'⟩
    exact ⟨2, earlier, live, carries'⟩
  have held : server.lobby.HoldsHand 0 2 hand := by
    have table : (server.lobby.room? 0).map (fun room =>
        (room.players, room.game?.bind (·.hand? 2))) = some ([1, 2], some hand) := by
      decide +kernel
    rcases Option.map_eq_some_iff.1 table with ⟨room, found, same⟩
    rcases Prod.mk.inj same with ⟨players, holds⟩
    rcases Option.bind_eq_some_iff.1 holds with ⟨game, on, holds'⟩
    exact ⟨room, game, found, players ▸ by decide, on, holds'⟩
  have kept := returns.keeps carried (.single ⟨.serve dispatched', others _⟩)
  exact ⟨reachable, ⟨refused, dispatched, alone 1 (by decide)⟩, next, session, previous,
    dispatched', resumed, kept.1, kept.2.hands held⟩

end CardTable.Server
