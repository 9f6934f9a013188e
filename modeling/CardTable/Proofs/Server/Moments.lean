import CardTable.Proofs.Server.Silence

/-!
# Moments

Whatever happens in a call happens in moments: a frame is served, a session is ended, the clocks are
looked at, a room is told that somebody has fallen asleep or is back. This file says for each kind
of moment which lines about anybody's stay in a room are said in it, who hears them, and who has a
seat afterwards.
-/

namespace CardTable

/-- What can be told of somebody's stay in a room. -/
inductive Sign
  | sleeps
  | wakes
  | leaves
  | dies
  deriving DecidableEq, Repr

/-- The lines that tell it; with a death comes a departure. -/
def Sign.lines (sign : Sign) (nickname : String) : List Notice :=
  match sign with
  | sleeps => [.sleep nickname]
  | wakes => [.awake nickname]
  | leaves => [.leave nickname]
  | dies => [.dead nickname, .leave nickname]

/-- The lines about anybody's stay. -/
def signs (lines : List Notice) : List Notice :=
  lines.filter Notice.IsSign

theorem Sign.signs_lines (sign : Sign) (nickname : String) :
    signs (sign.lines nickname) = sign.lines nickname := by
  cases sign <;> rfl

/-- The seat of a session, if it has one. -/
def Session.seat? (session : Session) : Option (Identity × RoomId) := do
  let room ← session.location.room?
  let identity ← session.identity
  return (identity, room)

theorem Session.seat?_congr {session later : Session} (same : later.standing = session.standing) :
    later.seat? = session.seat? := by
  rcases Session.standing_eq_iff.1 same with ⟨_, carries, location⟩
  rw [seat?, seat?, carries, location]

namespace Server

variable {server next : Server} {id other : ConnectionId} {identity : Identity}
  {number : RoomId} {mail later : List Delivery} {session : Session}

/-- Whether a connection sits in a room beside somebody. -/
def IsBeside (server : Server) (other : ConnectionId) (identity : Identity) (number : RoomId) :
    Bool :=
  (server.seated? other).any fun (neighbour, there) =>
    there = number ∧ neighbour.player ≠ identity.player

/-- What a connection is told of a stay: nothing, unless it sits in that room beside whoever stays
there. -/
def told (server : Server) (sign : Option (ConnectionId × Sign)) (other : ConnectionId) :
    List Notice :=
  match sign with
  | none => []
  | some (id, sign) =>
    match server.seated? id with
    | some (identity, number) =>
      if server.IsBeside other identity number then sign.lines identity.nickname else []
    | none => []

theorem isBeside_iff (linked : server.Linked) : server.IsBeside other identity number = true ↔
    ∃ me, server.Sits other me number ∧ me ≠ identity.player := by
  cases seat : server.seated? other with
  | none =>
    have absent := linked.not_sits_of_seated? seat
    simp [IsBeside, seat, absent]
  | some seated =>
    rcases seated with ⟨neighbour, there⟩
    have sits := (linked.sits_of_seated? seat).1
    simp only [IsBeside, seat, Option.any_some, decide_eq_true_eq]
    constructor
    · rintro ⟨rfl, apart⟩
      exact ⟨neighbour.player, sits, apart⟩
    · rintro ⟨me, sat, apart⟩
      rcases linked.sits_unique sits sat with ⟨rfl, rfl⟩
      exact ⟨rfl, apart⟩

/-- Nobody sits beside oneself. -/
theorem isBeside_self (seat : server.seated? id = some (identity, number)) :
    server.IsBeside id identity number = false := by
  simp [IsBeside, seat]

theorem told_of_unseated (free : server.seated? id = none) (sign : Sign) (other : ConnectionId) :
    server.told (some (id, sign)) other = [] := by
  simp only [told, free]

theorem told_of_seated (seat : server.seated? id = some (identity, number)) (sign : Sign)
    (other : ConnectionId) : server.told (some (id, sign)) other =
      if server.IsBeside other identity number then sign.lines identity.nickname else [] := by
  simp only [told, seat]

/-- Whoever has no seat is told of nobody. -/
theorem told_of_alone (free : server.seated? other = none) (sign : Option (ConnectionId × Sign)) :
    server.told sign other = [] := by
  unfold told
  split
  · rfl
  · split
    · simp [IsBeside, free]
    · rfl

theorem signs_told (sign : Option (ConnectionId × Sign)) (other : ConnectionId) :
    signs (server.told sign other) = server.told sign other := by
  unfold told
  split
  · rfl
  · split
    · split
      · exact Sign.signs_lines _ _
      · rfl
    · rfl

theorem told_congr (seats : ∀ other, next.seated? other = server.seated? other)
    (sign : Option (ConnectionId × Sign)) (other : ConnectionId) :
    next.told sign other = server.told sign other := by
  rcases sign with _ | ⟨id, sign⟩
  · rfl
  · cases seat : server.seated? id with
    | none => rw [told_of_unseated seat, told_of_unseated ((seats id).trans seat)]
    | some seated =>
      rw [told_of_seated seat, told_of_seated ((seats id).trans seat), IsBeside, IsBeside, seats]

theorem exists_of_dead_mem_told {sign : Option (ConnectionId × Sign)} {nickname : String}
    (mentioned : .dead nickname ∈ server.told sign other) :
    ∃ id identity number, sign = some (id, .dies) ∧
      server.seated? id = some (identity, number) ∧ identity.nickname = nickname ∧
      server.IsBeside other identity number = true := by
  rcases sign with _ | ⟨id, ending⟩
  · cases mentioned
  · cases seat : server.seated? id with
    | none =>
      rw [told_of_unseated seat] at mentioned
      cases mentioned
    | some seated =>
      rw [told_of_seated seat] at mentioned
      split at mentioned
      · next beside =>
        cases ending with
        | dies =>
          have same : nickname = seated.1.nickname := by simpa [Sign.lines] using mentioned
          exact ⟨id, seated.1, seated.2, rfl, seat, same.symm, beside⟩
        | sleeps | wakes | leaves => simp [Sign.lines] at mentioned
      · cases mentioned

/-! ## Signs in mail -/

theorem signs_append (lines later : List Notice) :
    signs (lines ++ later) = signs lines ++ signs later :=
  List.filter_append _ _

theorem Unsigned.no_signs (unsigned : Unsigned mail) (id : ConnectionId) :
    signs ((wordsTo mail id).map Word.notice) = [] := by
  apply List.filter_eq_nil_iff.2
  intro notice member
  rcases List.mem_map.1 member with ⟨word, heard, rfl⟩
  have silent := @forall_mem_wordsTo mail (fun word => word.notice.IsSign = false) unsigned id
    word heard
  simp [silent]

theorem news_of_same (said : next.said = server.said) (other : ConnectionId) :
    server.news next other = [] :=
  @news_of_said server next [] said other

/-- What is said to a room but for one of its players is heard by those who sit beside the player. -/
theorem wordsTo_neighbours (linked : server.Linked) (identity : Identity) (number : RoomId)
    (notice : Notice) (other : ConnectionId) :
    wordsTo (server.roomMail number notice (some identity.player)) other =
      if server.IsBeside other identity number then [.said notice] else [] := by
  by_cases inside : ∃ me, server.Sits other me number
  · rcases inside with ⟨me, sits⟩
    rcases sits.seats with ⟨room, found, member⟩
    rw [wordsTo_roomMail linked.indexed (linked.hosts found) sits.leads member]
    by_cases own : identity.player = me
    · have alone : ¬server.IsBeside other identity number = true := by
        rintro beside
        rcases (isBeside_iff linked).1 beside with ⟨me', sits', apart⟩
        exact apart ((linked.sits_unique sits sits').1.trans own.symm)
      rw [if_pos (congrArg some own), if_neg alone]
    · rw [if_neg (by simpa using own),
        if_pos ((isBeside_iff linked).2 ⟨me, sits, Ne.symm own⟩)]
  · have absent : ¬server.IsBeside other identity number = true := by
      rintro beside
      rcases (isBeside_iff linked).1 beside with ⟨me, sits, _⟩
      exact inside ⟨me, sits⟩
    rw [wordsTo_roomMail_of_absent (not_exists.1 inside), if_neg absent]

/-- The neighbours of a connection hear that it sleeps or is back. -/
theorem signs_saying (linked : server.Linked) (identity : Identity) (number : RoomId)
    {notice : Notice} (signed : notice.IsSign = true) (other : ConnectionId) :
    signs (server.news
        (server.saying (server.roomMail number notice (some identity.player))) other) =
      if server.IsBeside other identity number then [notice] else [] := by
  rw [news_of_said rfl, wordsTo_neighbours linked]
  split
  · simp [signs, Word.notice, signed]
  · rfl

theorem signs_tellWake (linked : server.Linked) (id other : ConnectionId) :
    signs (server.news (server.tellWake id) other) = server.told (some (id, .wakes)) other := by
  rw [tellWake_eq_saying, wakeMail]
  cases seat : server.seated? id with
  | none =>
    rw [told_of_unseated seat]
    exact congrArg signs (news_of_same rfl other)
  | some seated =>
    rw [told_of_seated seat]
    exact signs_saying linked _ _ rfl other

theorem signs_sleep (linked : server.Linked) (id other : ConnectionId) :
    signs (server.news (server.react (id, .fellAsleep)) other) =
      server.told (some (id, .sleeps)) other := by
  rw [react]
  cases seat : server.seated? id with
  | none =>
    rw [told_of_unseated seat]
    exact congrArg signs (news_of_same rfl other)
  | some seated =>
    rw [told_of_seated seat]
    simp only [tellRoom_eq_saying]
    exact signs_saying linked _ _ rfl other

/-- Of a departure those hear who have sat beside whoever leaves. -/
theorem Departed.wordsTo {words : List Word} (linked : server.Linked)
    (departed : server.Departed next identity number words mail later) (other : ConnectionId) :
    wordsTo mail other = if server.IsBeside other identity number then words else [] := by
  split
  · next beside =>
    rcases (isBeside_iff linked).1 beside with ⟨me, sits, apart⟩
    exact departed.farewell sits apart
  · next alone =>
    refine (departed.silent fun me sits => ?_).1
    by_contra apart
    exact alone ((isBeside_iff linked).2 ⟨me, sits, apart⟩)

theorem Unsigned.signs_news (unsigned : Unsigned mail)
    (said : next.said = mail.reverse ++ server.said) (other : ConnectionId) :
    signs (server.news next other) = [] := by
  rw [news_of_said said]
  exact unsigned.no_signs other

/-! ## Seats -/

theorem seated?_eq (server : Server) (id : ConnectionId) :
    server.seated? id = (server.sessions.get? id).bind Session.seat? := rfl

theorem seated?_congr (same : next.sessions.get? other = server.sessions.get? other) :
    next.seated? other = server.seated? other := by
  rw [seated?_eq, seated?_eq, same]

theorem seated?_of_alike (alike : server.sessions.Alike next.sessions) (other : ConnectionId) :
    next.seated? other = server.seated? other := by
  have same := alike.standing other
  rw [seated?_eq, seated?_eq]
  cases found : next.sessions.get? other with
  | none =>
    rw [found, Option.map_none, eq_comm, Option.map_eq_none_iff] at same
    rw [same]
  | some later =>
    rw [found, Option.map_some, eq_comm] at same
    rcases Option.map_eq_some_iff.1 same with ⟨session, live, stands⟩
    rw [live]
    exact Session.seat?_congr stands.symm

/-- Whoever goes with a room into its game keeps the seat. -/
theorem Effect.seated? {displaced : ConnectionId → Prop}
    (effect : server.Effect next id displaced mail) (apart : other ≠ id)
    (stays : ¬displaced other) : next.seated? other = server.seated? other := by
  rcases effect.others other apart stays with same | ⟨number, _, _, session, live, before, after⟩
  · exact seated?_congr same
  · simp [seated?_eq, live, after, Session.seat?, before, Location.room?]

theorem seated?_terminate (server : Server) (id : ConnectionId) (reason : EndReason)
    (other : ConnectionId) : (server.terminate id reason).seated? other =
      if other = id then none else server.seated? other := by
  rw [seated?_eq, seated?_eq, sessions_terminate, Sessions.get?_close]
  split <;> rfl

/-- Of the end of a session its neighbours hear first that it is dead, and then at once that it has
left. -/
theorem signs_of_terminate (linked : server.Linked) (id : ConnectionId) (reason : EndReason)
    (other : ConnectionId) : ∃ later, signs later = [] ∧
      server.news (server.terminate id reason) other =
        server.told (some (id, .dies)) other ++ later := by
  cases seat : server.seated? id with
  | none =>
    rcases terminate_of_free seat reason with ⟨cause, ended⟩
    rw [ended, told_of_unseated seat]
    exact ⟨[], rfl, news_of_same rfl other⟩
  | some seated =>
    rcases seated with ⟨identity, number⟩
    rcases exists_mourned linked seat reason with ⟨mail, later, departed⟩
    refine ⟨_, departed.unsigned.no_signs other, ?_⟩
    rw [news_of_said departed.said, wordsTo_append, departed.wordsTo linked, told_of_seated seat,
      List.map_append]
    split <;> rfl

/-! ## Requests -/

/-- The sign that a request gives when it is served: its sender leaves a room, or a sleeper is back
whose nickname the sender takes over. -/
def signOf? (server : Server) (id : ConnectionId) : Request → Option (ConnectionId × Sign)
  | .leaveRoom => some (id, .leaves)
  | .name nickname =>
    (server.sessions.findName? nickname).bind fun owner =>
      if server.awake owner then none else some (owner, .wakes)
  | _ => none

/-- Who has a seat when something has been done for a connection that gives some sign. -/
inductive Reseats (server : Server) (id : ConnectionId) (next : Server) :
    Option (ConnectionId × Sign) → Prop
  /-- Everybody keeps the seat. -/
  | stays (seats : ∀ other, next.seated? other = server.seated? other) : Reseats server id next none
  /-- The connection may have taken a seat. -/
  | comes (free : server.seated? id = none)
      (seats : ∀ other, other ≠ id → next.seated? other = server.seated? other) :
      Reseats server id next none
  /-- The connection has lost its seat. -/
  | goes {ending : Sign} (left : ending = .leaves ∨ ending = .dies)
      (seats : ∀ other, next.seated? other = if other = id then none else server.seated? other) :
      Reseats server id next (some (id, ending))
  /-- The connection has taken over what a sleeper had. -/
  | returns {previous : ConnectionId} (free : server.seated? id = none)
      (asleep : server.awake previous = false)
      (seats : ∀ other, next.seated? other =
        if other = id then server.seated? previous
        else if other = previous then none else server.seated? other) :
      Reseats server id next (some (previous, .wakes))

/-- What a request does to the seats, and what is told of it. -/
def Signals (server : Server) (id : ConnectionId) (next : Server)
    (sign : Option (ConnectionId × Sign)) : Prop :=
  server.Reseats id next sign ∧ ∀ other, signs (server.news next other) = server.told sign other

theorem signals_of_leaveRoom (linked : server.Linked)
    (live : server.sessions.get? id = some session)
    (served : server.serveLeaveRoom id = .ok next) :
    server.Signals id next (some (id, .leaves)) := by
  rw [serveLeaveRoom_eq] at served
  rcases exists_of_inRoom live served with ⟨identity, number, carries, inside, answered⟩
  have sits := linked.sits live carries inside
  have seat : server.seated? id = some (identity, number) := by
    simp [seated?_eq, live, Session.seat?, carries, inside]
  cases left : server.depart identity number with
  | error error =>
    simp only [left] at answered
    cases answered
  | ok middle =>
    simp only [left] at answered
    cases answered
    rcases exists_departed linked sits.seats left with ⟨mail, later, departed⟩
    refine ⟨.goes (.inl rfl) fun other => ?_, fun other => ?_⟩
    · change ((middle.sessions.modify id fun session =>
        { session with location := .lobby }).get? other).bind Session.seat? = _
      rw [Sessions.get?_modify, sessions_depart left, seated?_eq]
      split
      · cases server.sessions.get? other <;> rfl
      · rfl
    · let answer : Delivery := { connection := id, notice := .ok .leaveRoom }
      have said : ((middle.move id .lobby).tell id (.ok .leaveRoom)).said =
          ((mail ++ later) ++ [answer]).reverse ++ server.said := by
        rw [List.reverse_append, List.append_assoc, ← departed.said]
        rfl
      have own : Unsigned [answer] := List.forall_mem_singleton.2 rfl
      rw [news_of_said said, wordsTo_append, wordsTo_append, departed.wordsTo linked,
        List.map_append, List.map_append, signs_append, signs_append,
        departed.unsigned.no_signs other, own.no_signs other, told_of_seated seat]
      split <;> rfl

/-- Whoever takes over what a sleeper had sits where the sleeper has sat, and the neighbours hear
that the sleeper is back. -/
theorem signals_of_inherited {previous heir : Session} (linked : server.Linked)
    (live : server.sessions.get? previous.id = some previous)
    (live' : server.sessions.get? heir.id = some heir) (carries : previous.identity = some identity)
    (unnamed : heir.identity = none) (asleep : previous.isAwake = false)
    (different : previous.id ≠ heir.id) :
    server.Signals heir.id ((((server.withHeir previous heir identity).close previous.id
      .replaced).tell heir.id (.ok .name)).tellWake heir.id) (some (previous.id, .wakes)) := by
  let answer : Delivery := { connection := heir.id, notice := .ok .name }
  let begun := ((server.withHeir previous heir identity).close previous.id .replaced).tell heir.id
    (.ok .name)
  have linked' : begun.Linked :=
    ((linked.inherited live live' carries unnamed different).closing _ _).tell _ _
  have free : server.seated? heir.id = none := by
    simp [seated?_eq, live', Session.seat?, unnamed]
  have seats (other : ConnectionId) : begun.seated? other =
      if other = heir.id then server.seated? previous.id
      else if other = previous.id then none else server.seated? other := by
    change ((server.sessions.inherited previous heir identity).get? other).bind _ = _
    rw [Sessions.get?_inherited live' different]
    split
    · rw [seated?_eq, live]
      rfl
    · split <;> rfl
  rw [tellWake_eq_saying]
  refine ⟨.returns free ((awake_of_get? live).trans asleep) seats, fun other => ?_⟩
  have said : (begun.saying (begun.wakeMail heir.id)).said =
      ([answer] ++ begun.wakeMail heir.id).reverse ++ server.said := by
    rw [List.reverse_append, List.append_assoc]
    rfl
  have own : signs ((wordsTo [answer] other).map Word.notice) = [] :=
    Unsigned.no_signs (List.forall_mem_singleton.2 rfl) other
  have seat := seats heir.id
  rw [if_pos rfl] at seat
  rw [news_of_said said, wordsTo_append, List.map_append, signs_append, own, List.nil_append]
  cases there : server.seated? previous.id with
  | none =>
    rw [there] at seat
    simp only [wakeMail, seat, told_of_unseated there]
    rfl
  | some seated =>
    rcases seated with ⟨identity, number⟩
    rw [there] at seat
    -- Neither the heir nor the sleeper sits beside itself, and all others sit where they have sat.
    have beside : begun.IsBeside other identity number =
        server.IsBeside other identity number := by
      by_cases heirs : other = heir.id
      · rw [heirs, isBeside_self seat, IsBeside, free]
        rfl
      · by_cases gone : other = previous.id
        · subst gone
          rw [isBeside_self there, IsBeside, seats, if_neg heirs, if_pos rfl]
          rfl
        · rw [IsBeside, IsBeside, seats, if_neg heirs, if_neg gone]
    simp only [wakeMail, seat]
    rw [wordsTo_neighbours linked', told_of_seated there, beside]
    split <;> rfl

theorem signals_of_naming {heir : Session} {nickname : String} (linked : server.Linked)
    (live : server.sessions.get? heir.id = some heir) (unnamed : heir.identity = none)
    (naming : server.Naming heir nickname next) :
    server.Signals heir.id next (server.signOf? heir.id (.name nickname)) := by
  have owner {holder : Session} (live' : server.sessions.get? holder.id = some holder)
      (taken : holder.nickname? = some nickname) :
      server.sessions.findName? nickname = some holder.id :=
    (linked.indexed.byName nickname holder.id).2 ⟨holder, live', taken⟩
  cases naming with
  | @refused holder live' taken awake =>
    have sign : server.signOf? heir.id (.name nickname) = none := by
      simp [signOf?, owner live' taken, awake_of_get? live', awake]
    rw [sign]
    refine ⟨.stays fun _ => rfl, fun other => ?_⟩
    exact @Unsigned.signs_news _ _ [{ connection := heir.id, notice := .fail .name }]
      (List.forall_mem_singleton.2 rfl) rfl other
  | fresh unused =>
    have after := @Sessions.get?_named _ heir { nickname, player := server.nextPlayer } live
    have free : server.seated? heir.id = none := by
      simp [seated?_eq, live, Session.seat?, unnamed]
    have sign : server.signOf? heir.id (.name nickname) = none := by simp [signOf?, unused]
    rw [sign]
    refine ⟨.comes free fun other apart => seated?_congr ((after other).trans (if_neg apart)),
      fun other => ?_⟩
    exact @Unsigned.signs_news _ _ [{ connection := heir.id, notice := .ok .name }]
      (List.forall_mem_singleton.2 rfl) rfl other
  | @inherited previous identity live' carries same asleep different =>
    have taken : previous.nickname? = some nickname := by
      rw [Session.nickname?, carries, Option.map_some, same]
    have sign : server.signOf? heir.id (.name nickname) = some (previous.id, .wakes) := by
      simp [signOf?, owner live' taken, awake_of_get? live', asleep]
    rw [sign]
    exact signals_of_inherited linked live' live carries unnamed asleep different

/-- A request that tells of nobody's stay leaves its sender's session alone, unless the sender comes
from the lobby. -/
theorem own_of_request {request : Request} (linked : server.Linked)
    (live : server.sessions.get? id = some session) (served : server.serve id request = .ok next)
    (unnamed : ∀ nickname, request ≠ .name nickname) (stays : request ≠ .leaveRoom) :
    next.seated? id = server.seated? id ∨ server.seated? id = none := by
  have of_lobby (location : session.location = .lobby) : server.seated? id = none := by
    simp [seated?_eq, live, Session.seat?, location, Location.room?]
  cases request with
  | ok | pong =>
    cases served
    exact .inl rfl
  | name nickname => exact (unnamed nickname rfl).elim
  | leaveRoom => exact (stays rfl).elim
  | listRooms | createRoom | joinRoom =>
    rcases exists_of_inLobby live served with ⟨_, _, location, _⟩
    exact .inr (of_lobby location)
  | roomInfo =>
    rcases exists_of_inRoom live served with ⟨_, number, _, _, answered⟩
    dsimp only at answered
    split at answered
    · cases answered
      exact .inl rfl
    · cases answered
  | state =>
    change server.serveState id = .ok next at served
    simp only [serveState, live, checked] at served
    split at served
    · cases served
      exact .inl rfl
    · cases served
  | play card =>
    rcases exists_of_servePlay linked live served with
      ⟨identity, number, room, game, played, after, _, _, _, _, _, answered⟩
    refine .inl (seated?_congr ?_)
    dsimp only at answered
    rw [answered]
    split
    · rw [sessions_finishGame]
      rfl
    · rw [tellTurn_eq_saying]
      rfl
  | draw =>
    cases draws_of_serveDraw linked live served
    rw [tellTurn_eq_saying]
    exact .inl rfl
  | pass =>
    cases draws_of_servePass linked live served
    rw [tellTurn_eq_saying]
    exact .inl rfl

theorem signals_of_request {request : Request} (linked : server.Linked)
    (live : server.sessions.get? id = some session)
    (served : server.serve id request = .ok next) :
    server.Signals id next (server.signOf? id request) := by
  by_cases name : ∃ nickname, request = .name nickname
  · rcases name with ⟨nickname, rfl⟩
    rcases naming_of_name linked live served with ⟨rfl, unnamed, naming⟩
    exact signals_of_naming linked live unnamed naming
  · by_cases leaves : request = .leaveRoom
    · subst leaves
      exact signals_of_leaveRoom linked live served
    · have unnamed := not_exists.1 name
      rcases effect_of_request linked live served with ⟨mail, effect, unsigned⟩
      have others (other : ConnectionId) (apart : other ≠ id) :
          next.seated? other = server.seated? other := by
        refine effect.seated? apart ?_
        rintro ⟨nickname, _, _, same, _⟩
        exact unnamed nickname same
      have sign : server.signOf? id request = none := by
        cases request with
        | name nickname => exact (unnamed nickname rfl).elim
        | leaveRoom => exact (leaves rfl).elim
        | _ => rfl
      rw [sign]
      refine ⟨?_, (unsigned unnamed leaves).signs_news effect.said⟩
      rcases own_of_request linked live served unnamed leaves with own | free
      · refine .stays fun other => ?_
        by_cases same : other = id
        · rw [same, own]
        · exact others other same
      · exact .comes free others

/-! ## Moments -/

theorem standing_received {filled : Session} {config : SessionConfig} {arrivals : List Arrival}
    {now : Nanos} {result : Except SessionError Traffic}
    (received : session.receive config arrivals now = (result, filled)) :
    filled.standing = session.standing := by
  have standing := Session.standing_receive session config arrivals now
  rwa [received] at standing

theorem standing_taken {filled : Session} {config : SessionConfig} {arrivals : List Arrival}
    {now : Nanos} {traffic : Traffic}
    (received : session.receive config arrivals now = (.ok traffic, filled)) :
    filled.takeFrames.2.standing = session.standing :=
  (Session.standing_takeFrames filled).trans (standing_received received)

/-- What happens in a moment, and what is told in it of somebody's stay. The clocks may have found
things of which nobody has been told yet: those before the moment and those after it are listed. -/
inductive Moment (server : Server) : List (ConnectionId × LivenessEvent) → Server →
    List (ConnectionId × LivenessEvent) → Option (ConnectionId × Sign) → Prop
  /-- What was said in a call is handed over at its end. -/
  | finish : Moment server [] server.handOver [] none
  /-- The connections to be closed are collected. -/
  | collect : Moment server [] server.takeClosings.2 [] none
  | accept (id : ConnectionId) (now : Nanos) : Moment server [] (server.acceptCore id now) [] none
  /-- A connection takes what a session has to send. -/
  | drain {id : ConnectionId} {session : Session} (live : server.sessions.get? id = some session)
      (uptake : Uptake) : Moment server []
        { server with sessions := server.sessions.put (session.transmit uptake).session } [] none
  /-- A connection fails while a session takes in what it has. -/
  | fill {id : ConnectionId} {session filled : Session} {arrivals : List Arrival} {now : Nanos}
      {error : SessionError} (live : server.sessions.get? id = some session)
      (received : session.receive server.sessions.config arrivals now = (.error error, filled)) :
      Moment server [] { server with sessions := server.sessions.put filled } [] none
  /-- A session takes in what its connection has, and is perhaps woken by it. -/
  | read {id : ConnectionId} {session filled : Session} {arrivals : List Arrival} {now : Nanos}
      {traffic : Traffic} (live : server.sessions.get? id = some session)
      (received : session.receive server.sessions.config arrivals now = (.ok traffic, filled)) :
      Moment server [] (server.woken id filled.takeFrames.2 traffic.woke) []
        (if traffic.woke then some (id, .wakes) else none)
  /-- A frame is served; its sender is always awake. -/
  | serve {id : ConnectionId} {frame : Wire.Frame} {request : Request} {next : Server}
      (awake : server.awake id = true) (read : Request.ofWords frame = .ok request)
      (served : server.dispatch id frame = .ok next) :
      Moment server [] next [] (server.signOf? id request)
  | terminate (id : ConnectionId) (reason : EndReason) :
      Moment server [] (server.terminate id reason) [] (some (id, .dies))
  /-- Every clock is looked at. -/
  | beat (now : Nanos) : Moment server []
      { server with sessions := (server.sessions.beat now).sessions }
      (server.sessions.beat now).events none
  | ping (id : ConnectionId) (due : List (ConnectionId × LivenessEvent)) :
      Moment server due (server.tell id .ping) due none
  /-- A room is told of a sleeper that the clocks have found. -/
  | sleep (id : ConnectionId) (due : List (ConnectionId × LivenessEvent)) :
      Moment server ((id, .fellAsleep) :: due) (server.react (id, .fellAsleep)) due
        (some (id, .sleeps))
  /-- A session that the clocks have found dead is ended. -/
  | die (id : ConnectionId) (due : List (ConnectionId × LivenessEvent)) :
      Moment server ((id, .died) :: due) (server.react (id, .died)) due (some (id, .dies))

namespace Moment

variable {due due' : List (ConnectionId × LivenessEvent)} {sign : Option (ConnectionId × Sign)}

/-- Only the end of a session gives the sign of a death. -/
theorem exists_terminate_of_dies (moment : server.Moment due next due' sign)
    (dies : sign = some (id, .dies)) :
    ∃ reason, next = server.terminate id reason := by
  cases moment with
  | finish | collect | accept | drain | fill | beat | ping | sleep => cases dies
  | read => split at dies <;> cases dies
  | @serve _ _ request =>
    cases request with
    | name nickname =>
      simp only [signOf?] at dies
      rcases Option.bind_eq_some_iff.1 dies with ⟨owner, _, dies⟩
      split at dies <;> cases dies
    | _ => cases dies
  | terminate _ reason =>
    cases dies
    exact ⟨reason, rfl⟩
  | die =>
    cases dies
    exact ⟨.silence, rfl⟩

variable (moment : server.Moment due next due' sign) (linked : server.Linked)

include moment linked

theorem linked' : next.Linked := by
  cases moment with
  | finish => exact Step.finish.linked linked
  | collect => exact Step.collect.linked linked
  | accept id now => exact (Step.accept id now).linked linked
  | drain live uptake => exact (Step.drain live uptake).linked linked
  | @fill id session filled arrivals now error live received =>
    have filled := (Step.fill live arrivals now).linked linked
    rwa [received] at filled
  | read live received =>
    exact linked_woken live (linked.indexed.filed live) (standing_taken received) linked _
  | serve awake read served => exact (Step.serve served).linked linked
  | terminate id reason => exact linked.terminate id reason
  | beat now => exact (Step.beat now).linked linked
  | ping id => exact linked.tell id .ping
  | sleep id | die id => exact linked.react _

/-- Whoever leaves a room keeps the session. -/
theorem isSome_of_leaves (leaves : sign = some (id, .leaves)) :
    (next.sessions.get? id).isSome := by
  cases moment with
  | finish | collect | accept | drain | fill | beat | ping | sleep | terminate | die => cases leaves
  | read => split at leaves <;> cases leaves
  | @serve _ _ request _ awake read served =>
    cases request with
    | leaveRoom =>
      cases leaves
      exact isSome_of_served linked served
    | name nickname =>
      simp only [signOf?] at leaves
      rcases Option.bind_eq_some_iff.1 leaves with ⟨owner, _, leaves⟩
      split at leaves <;> cases leaves
    | _ => cases leaves

/-- In a moment something may be said, and nothing that has been said is taken back. -/
theorem exists_said : ∃ mail : List Delivery, next.said = mail.reverse ++ server.said := by
  cases moment with
  | finish | collect | drain | fill | beat => exact ⟨[], rfl⟩
  | accept id now =>
    refine ⟨[], ?_⟩
    unfold acceptCore
    split <;> rfl
  | @read id session filled arrivals now traffic live received =>
    rw [woken]
    split
    · rw [tellWake_eq_saying]
      exact ⟨_, rfl⟩
    · exact ⟨[], rfl⟩
  | serve awake read served =>
    rcases exists_of_dispatch served with ⟨session, request, live, read', done⟩
    rcases effect_of_request linked live done with ⟨mail, effect, _⟩
    exact ⟨mail, effect.said⟩
  | terminate id reason =>
    rcases (effect_of_terminate linked id reason).1 with ⟨mail, effect⟩
    exact ⟨mail, effect.said⟩
  | ping id => exact ⟨[{ connection := id, notice := .ping }], rfl⟩
  | sleep id =>
    simp only [react, tellRoom_eq_saying]
    split
    · exact ⟨_, rfl⟩
    · exact ⟨[], rfl⟩
  | die id =>
    rcases (effect_of_terminate linked id .silence).1 with ⟨mail, effect⟩
    exact ⟨mail, effect.said⟩

/-- In every moment, whoever sits beside the one who is concerned hears the sign; nobody else hears
any, and least of all the one who is concerned. -/
theorem signs_eq (other : ConnectionId) :
    signs (server.news next other) = server.told sign other := by
  have silently (same : next.said = server.said) : signs (server.news next other) = [] :=
    congrArg signs (news_of_same same other)
  have ended (id : ConnectionId) (reason : EndReason) :
      signs (server.news (server.terminate id reason) other) =
        server.told (some (id, .dies)) other := by
    rcases signs_of_terminate linked id reason other with ⟨later, unsigned, heard⟩
    rw [heard, signs_append, unsigned, List.append_nil, signs_told]
  cases moment with
  | finish | collect | drain | fill | beat => exact silently rfl
  | accept id now =>
    refine silently ?_
    unfold acceptCore
    split <;> rfl
  | @read id session filled arrivals now traffic live received =>
    have filed := linked.indexed.filed live
    have standing := standing_taken received
    by_cases woke : traffic.woke = true
    · let put : Server := { server with sessions := server.sessions.put filled.takeFrames.2 }
      have alike := Sessions.alike_put live filed standing
      have put_linked : put.Linked := linked.of_alike alike rfl rfl
      rw [if_pos woke, woken, if_pos woke]
      exact (signs_tellWake put_linked id other).trans
        (told_congr (@seated?_of_alike server put alike) _ other)
    · rw [if_neg woke]
      exact silently (by rw [woken, if_neg woke])
  | serve awake read served =>
    rcases exists_of_dispatch served with ⟨session, request, live, read', done⟩
    cases Except.ok.inj (read.symm.trans read')
    exact (signals_of_request linked live done).2 other
  | terminate id reason => exact ended id reason
  | ping id =>
    exact @Unsigned.signs_news _ _ [{ connection := id, notice := .ping }]
      (List.forall_mem_singleton.2 rfl) rfl other
  | sleep id => exact signs_sleep linked id other
  | die id => exact ended id .silence

/-- Whoever is told to be dead is told at once to have left, and its session is gone. -/
theorem mourned {other : ConnectionId} {nickname : String}
    (heard : .dead nickname ∈ server.news next other) :
    (∃ later, signs later = [] ∧
      server.news next other = .dead nickname :: .leave nickname :: later) ∧
    ∃ id identity number, server.seated? id = some (identity, number) ∧
      identity.nickname = nickname ∧ next.sessions.get? id = none := by
  have mentioned : .dead nickname ∈ server.told sign other := by
    rw [← moment.signs_eq linked]
    exact List.mem_filter.2 ⟨heard, rfl⟩
  rcases exists_of_dead_mem_told mentioned with
    ⟨id, identity, number, dies, seat, rfl, beside⟩
  rcases moment.exists_terminate_of_dies dies with ⟨reason, rfl⟩
  rcases signs_of_terminate linked id reason other with ⟨later, unsigned, lines⟩
  rw [told_of_seated seat, if_pos beside] at lines
  exact ⟨⟨later, unsigned, lines⟩, id, identity, number, seat, rfl, get?_terminate _ _ _⟩

/-- In a moment everybody keeps the seat, or it is one in which one connection comes, goes, or takes
a sleeper's place. -/
theorem reseats_or_same : (∃ id, server.Reseats id next sign) ∨
    ∀ other, next.seated? other = server.seated? other := by
  have ended (id : ConnectionId) (reason : EndReason) :
      server.Reseats id (server.terminate id reason) (some (id, .dies)) :=
    .goes (.inr rfl) (seated?_terminate server id reason)
  cases moment with
  | collect | ping => exact .inr fun _ => rfl
  | finish => exact .inr (seated?_of_alike (Sessions.alike_deliver server.sessions server.mail))
  | accept asked now =>
    refine .inr fun other => ?_
    rcases server.get?_acceptCore asked now with same | ⟨missing, after⟩
    · exact seated?_congr (congrArg (Sessions.get? · other) same)
    · rw [seated?_eq, seated?_eq, after]
      split
      · next same =>
        rw [same, missing]
        rfl
      · rfl
  | @drain id session live uptake =>
    have standing := Session.standing_transmit session uptake
    exact .inr (seated?_of_alike (Sessions.alike_put live (linked.indexed.filed live) standing))
  | @fill id session filled arrivals now error live received =>
    have standing := standing_received received
    exact .inr (seated?_of_alike (Sessions.alike_put live (linked.indexed.filed live) standing))
  | @read id session filled arrivals now traffic live received =>
    have alike := Sessions.alike_put live (linked.indexed.filed live) (standing_taken received)
    rw [← sessions_woken server id _ traffic.woke] at alike
    exact .inr (seated?_of_alike alike)
  | @serve id frame request _ awake read served =>
    rcases exists_of_dispatch served with ⟨session, request', live, read', done⟩
    cases Except.ok.inj (read.symm.trans read')
    exact .inl ⟨id, (signals_of_request linked live done).1⟩
  | terminate id reason => exact .inl ⟨id, ended id reason⟩
  | beat now => exact .inr (seated?_of_alike (Sessions.alike_beat server.sessions now))
  | sleep id =>
    refine .inr fun other => ?_
    simp only [react, tellRoom_eq_saying]
    split <;> rfl
  | die id => exact .inl ⟨id, ended id .silence⟩

end Moment

end Server

end CardTable
