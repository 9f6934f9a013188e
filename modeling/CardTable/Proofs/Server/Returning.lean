import CardTable.Proofs.Server.Isolation
import CardTable.Proofs.Server.Moments
import CardTable.Proofs.Session.Indexes

/-!
# Coming back on another connection

A connection that asks for the nickname of a sleeper is given what the sleeper had: the nickname,
the player and the place, and nothing else. The sleeper's session is gone then, those in its room
hear that the sleeper is back, and in the rooms themselves nothing has happened. If the owner of the
nickname is awake, the connection is only told that it cannot have it.
-/

namespace CardTable

/-- Whether two sessions are in the same room. -/
def Session.sharesRoom (session other : Session) : Bool :=
  other.location.room?.any fun number => session.location.room? = some number

namespace Server

variable {server next : Server} {id other : ConnectionId} {session neighbour : Session}
  {identity : Identity}

/-! ## What is queued -/

theorem sessionOf?_saying (server : Server) (mail : List Delivery) (asked : ConnectionId) :
    (server.saying mail).sessionOf? asked = (server.sessionOf? asked).map fun session =>
      { session with
        outgoing := session.outgoing ++
          ((wordsTo mail asked).map Word.notice).flatMap Notice.bytes } := by
  rw [sessionOf?_eq, sessionOf?_eq, lines_saying, sessions_saying, Option.map_map]
  simp [Function.comp_def]

theorem sessionOf?_tell (server : Server) (id : ConnectionId) (notice : Notice)
    (asked : ConnectionId) : (server.tell id notice).sessionOf? asked =
      if asked = id then (server.sessionOf? asked).map (·.send notice)
      else server.sessionOf? asked := by
  refine (sessionOf?_saying server [{ connection := id, notice }] asked).trans ?_
  rw [wordsTo_tell]
  split
  · simp [Session.send, Session.enqueue, Word.notice, Notice.bytes]
  · simp

/-! ## Who hears that somebody is back -/

/-- Whoever sits in a room beside a player is in the room. -/
theorem isBeside_eq (linked : server.Linked) (live : server.sessions.get? other = some neighbour)
    (apart : server.sessions.findPlayer? identity.player ≠ some other) (number : RoomId) :
    server.IsBeside other identity number =
      decide (neighbour.location.room? = some number) := by
  rw [Bool.eq_iff_iff, isBeside_iff linked, decide_eq_true_eq]
  constructor
  · rintro ⟨me, sits, _⟩
    cases seat : server.seated? other with
    | none => exact (linked.not_sits_of_seated? seat me number sits).elim
    | some seated =>
      rcases seated?_eq_some seat with ⟨session, live', _, inside⟩
      cases Option.some.inj (live.symm.trans live')
      rw [inside, (linked.sits_unique (linked.sits_of_seated? seat).1 sits).2]
  · intro inside
    rcases linked.exists_seat live inside with ⟨own, _, carries, _⟩
    refine ⟨own.player, linked.sits live carries inside, ?_⟩
    intro same
    exact apart (same ▸ (linked.known live carries).1)

/-- Those who are in the same room hear that somebody is back, once, and nobody else hears it. -/
theorem wordsTo_wakeMail (linked : server.Linked)
    (live : server.sessions.get? id = some session) (carries : session.identity = some identity)
    (live' : server.sessions.get? other = some neighbour) (apart : other ≠ id) :
    wordsTo (server.wakeMail id) other =
      if neighbour.sharesRoom session then [.said (.awake identity.nickname)] else [] := by
  have elsewhere : server.sessions.findPlayer? identity.player ≠ some other := by
    rw [(linked.known live carries).1]
    exact fun same => apart (Option.some.inj same).symm
  cases inside : session.location.room? with
  | none =>
    have free : server.seated? id = none := by simp [seated?_eq, live, Session.seat?, inside]
    simp [wakeMail, free, Session.sharesRoom, inside]
  | some number =>
    have seat : server.seated? id = some (identity, number) := by
      simp [seated?_eq, live, Session.seat?, inside, carries]
    simp only [wakeMail, seat]
    rw [wordsTo_neighbours linked, isBeside_eq linked live' elsewhere, Session.sharesRoom, inside,
      Option.any_some]

/-- Nobody hears of the own return. -/
theorem wordsTo_wakeMail_self (linked : server.Linked) (id : ConnectionId) :
    wordsTo (server.wakeMail id) id = [] := by
  unfold wakeMail
  split
  · next seat => rw [wordsTo_neighbours linked, isBeside_self seat, if_neg (by simp)]
  · rfl

theorem sessionOf?_tellWake_self (linked : server.Linked) (id : ConnectionId) :
    (server.tellWake id).sessionOf? id = server.sessionOf? id := by
  rw [tellWake_eq_saying, sessionOf?_saying, wordsTo_wakeMail_self linked]
  simp

theorem sessionOf?_tellWake (linked : server.Linked)
    (live : server.sessions.get? id = some session) (carries : session.identity = some identity)
    (apart : other ≠ id) :
    (server.tellWake id).sessionOf? other = (server.sessionOf? other).map fun neighbour =>
      if neighbour.sharesRoom session then neighbour.send (.awake identity.nickname)
      else neighbour := by
  rw [tellWake_eq_saying, sessionOf?_saying]
  cases there : server.sessions.get? other with
  | none => rw [sessionOf?_eq_none_iff.2 there, Option.map_none, Option.map_none]
  | some neighbour =>
    rw [wordsTo_wakeMail linked live carries there apart, sessionOf?_eq, there]
    cases beside : neighbour.sharesRoom session <;>
      simp_all [Session.sharesRoom, Session.send, Session.enqueue, Word.notice, Notice.bytes]

/-! ## The return -/

/-- A session has been given what another one had, and nothing else has happened. -/
structure Resumes (server next : Server) (id owner : ConnectionId) (session previous : Session)
    (identity : Identity) : Prop where
  config : next.config = server.config
  /-- All rooms are as they were, with their seats, games, hands and decks. -/
  lobby : next.lobby = server.lobby
  nextPlayer : next.nextPlayer = server.nextPlayer
  closings : next.closings = server.closings ++ [{ connection := owner, cause := .replaced }]
  gone : next.sessionOf? owner = none
  own : next.sessionOf? id = some ((session.inherit previous).send (.ok .name))
  /-- Whoever is in the same room hears of it, once; to all others nothing happens. -/
  others : ∀ other, other ≠ id → other ≠ owner →
    next.sessionOf? other = (server.sessionOf? other).map fun neighbour =>
      if neighbour.sharesRoom previous then neighbour.send (.awake identity.nickname)
      else neighbour
  leads : next.sessions.findName? identity.nickname = some id ∧
    next.sessions.findPlayer? identity.player = some id
  /-- What led to the other session leads to this one, and all else leads where it did. -/
  redirects : server.sessions.Redirects next.sessions owner (some id)

theorem resumes_of_inherited {previous heir before : Session} (linked : server.Linked)
    (live : server.sessions.get? previous.id = some previous)
    (live' : server.sessions.get? heir.id = some heir) (carries : previous.identity = some identity)
    (unnamed : heir.identity = none) (different : previous.id ≠ heir.id)
    (found : server.sessionOf? heir.id = some session)
    (found' : server.sessionOf? previous.id = some before) :
    server.Resumes ((((server.withHeir previous heir identity).close previous.id .replaced).tell
      heir.id (.ok .name)).tellWake heir.id) heir.id previous.id session before identity := by
  let moved := (server.withHeir previous heir identity).close previous.id .replaced
  have linked' : (moved.tell heir.id (.ok .name)).Linked :=
    ((linked.inherited live live' carries unnamed different).closing _ _).tell _ _
  have after (asked : ConnectionId) : moved.sessions.get? asked =
      if asked = heir.id then some (heir.inherit previous)
      else if asked = previous.id then none else server.sessions.get? asked :=
    Sessions.get?_inherited live' different asked
  have own := (after heir.id).trans (if_pos rfl)
  have queued (asked : ConnectionId) : moved.sessionOf? asked =
      (moved.sessions.get? asked).map fun session => { session with
        outgoing := session.outgoing ++ (server.lines asked).flatMap Notice.bytes } :=
    sessionOf?_eq moved asked
  rw [sessionOf?_eq, live', Option.map_some, Option.some_inj] at found
  rw [sessionOf?_eq, live, Option.map_some, Option.some_inj] at found'
  subst found found'
  have sessions :
      ((moved.tell heir.id (.ok .name)).tellWake heir.id).sessions = moved.sessions := by
    rw [tellWake_eq_saying]
    rfl
  refine {
    config := by rw [tellWake_eq_saying]; rfl
    lobby := by rw [tellWake_eq_saying]; rfl
    nextPlayer := by rw [tellWake_eq_saying]; rfl
    closings := by rw [tellWake_eq_saying]; rfl
    gone := ?_
    own := ?_
    others := ?_
    leads := ?_
    redirects := ?_ }
  · rw [sessionOf?_eq_none_iff, sessions, after, if_neg different, if_pos rfl]
  · rw [sessionOf?_tellWake_self linked', sessionOf?_tell, if_pos rfl, queued, own]
    rfl
  · intro other apart stays
    rw [sessionOf?_tellWake linked' own carries apart, sessionOf?_tell, if_neg apart, queued,
      after, if_neg apart, if_neg stays, sessionOf?_eq]
    rfl
  · rw [sessions]
    exact ⟨(linked'.indexed.byName _ _).2
      ⟨_, own, congrArg (Option.map Identity.nickname) carries⟩, (linked'.known own carries).1⟩
  · rw [sessions]
    exact linked.indexed.redirects_reclaim (Sessions.reclaim_eq_ok live live' carries unnamed)

/-- A connection that has no name asks for the nickname of another one. -/
structure AsksForNameOf (server : Server) (id owner : ConnectionId) (session previous : Session)
    (nickname : String) (frame : Wire.Frame) : Prop where
  found : server.sessionOf? id = some session
  unnamed : session.location = .unnamed
  read : Request.ofWords frame = .ok (.name nickname)
  found' : server.sessionOf? owner = some previous
  taken : previous.nickname? = some nickname

/-- Whoever asks for a nickname that somebody has is refused if the owner is awake, and is given
what the owner has if not. -/
theorem AsksForNameOf.dispatch {owner : ConnectionId} {previous : Session} {nickname : String}
    {frame : Wire.Frame} (linked : server.Linked)
    (asks : server.AsksForNameOf id owner session previous nickname frame) :
    (previous.isAwake = true → server.dispatch id frame = .ok (server.tell id (.fail .name))) ∧
      (previous.isAwake = false → ∃ next identity, server.dispatch id frame = .ok next ∧
        previous.identity = some identity ∧ identity.nickname = nickname ∧
        server.Resumes next id owner session previous identity) := by
  rcases asks with ⟨found, unnamed, read, found', taken⟩
  have queued := found
  have queued' := found'
  rw [sessionOf?_eq, Option.map_eq_some_iff] at queued queued'
  rcases queued with ⟨heir, live, rfl⟩
  rcases queued' with ⟨holder, live', rfl⟩
  have filed := linked.indexed.filed live
  have filed' := linked.indexed.filed live'
  subst filed filed'
  have leads := (linked.indexed.byName nickname holder.id).2 ⟨holder, live', taken⟩
  have owns {other : Session} (live'' : server.sessions.get? other.id = some other)
      (taken' : other.nickname? = some nickname) : other = holder := by
    have leads' := (linked.indexed.byName nickname other.id).2 ⟨other, live'', taken'⟩
    rw [Option.some.inj (leads'.symm.trans leads)] at live''
    exact Option.some.inj (live''.symm.trans live')
  rcases (linked.served_name live nickname).exists_ok_iff.2 unnamed with ⟨next, served⟩
  have dispatched : server.dispatch heir.id frame = .ok next := by
    simp only [Server.dispatch, live, Option.isNone_some, Bool.false_eq_true, if_false, read, serve,
      served]
  rcases naming_of_name linked live served with ⟨_, nameless, naming⟩
  cases naming with
  | refused live'' taken' awake =>
    cases owns live'' taken'
    refine ⟨fun _ => dispatched, fun asleep => ?_⟩
    cases awake.symm.trans asleep
  | fresh free => cases leads.symm.trans free
  | @inherited previous identity live'' carries same asleep different =>
    cases owns live'' (same ▸ congrArg (Option.map Identity.nickname) carries)
    refine ⟨fun awake => ?_, fun _ => ⟨_, identity, dispatched, carries, same, ?_⟩⟩
    · cases asleep.symm.trans awake
    · exact resumes_of_inherited linked live' live carries nameless different found found'

end Server

end CardTable
