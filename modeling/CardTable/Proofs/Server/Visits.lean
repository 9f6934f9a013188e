import CardTable.Proofs.Server.Runs
import CardTable.Proofs.Server.Shown

/-!
# Comings and sleepers

What clients see of changes that do not concern a game: somebody is shown a room, falls asleep or
wakes up, takes a name or takes a sleeper's place over, comes into a room, or ends a session outside
all rooms.
-/

namespace CardTable.Server

variable {server next : Server} {told : ConnectionId → Bool} {id : ConnectionId}
  {player : PlayerId} {number : RoomId} {room : Room}

theorem Linked.sits_unique (linked : server.Linked) {player' : PlayerId} {number' : RoomId}
    (sits : server.Sits id player number) (sits' : server.Sits id player' number') :
    player' = player ∧ number' = number := by
  have same := linked.indexed.eq_of_findPlayer? sits'.leads sits.leads
  subst same
  exact ⟨rfl, linked.alone sits'.seats sits.seats⟩

theorem wordsTo_tell (id : ConnectionId) (notice : Notice) (asked : ConnectionId) :
    wordsTo [{ connection := id, notice }] asked = if asked = id then [.said notice] else [] := by
  rw [wordsTo_cons, wordsTo_nil, List.append_nil]
  by_cases same : asked = id
  · rw [if_pos same.symm, if_pos same]
  · rw [if_neg (Ne.symm same), if_neg same]

/-! ## Talk and pictures -/

theorem quietly_saying (server : Server) (told : ConnectionId → Bool) (mail : List Delivery)
    (idle : ∀ delivery ∈ mail, delivery.notice.IsTalk) : server.Quietly told (server.saying mail) :=
  quietly_of_people mail (samePeople_of_eq rfl) rfl rfl idle (.refl _)

theorem quietly_tell (server : Server) (told : ConnectionId → Bool) (id : ConnectionId)
    {notice : Notice} (idle : notice.IsTalk) : server.Quietly told (server.tell id notice) := by
  apply quietly_saying server told [{ connection := id, notice }]
  simpa using idle

theorem mem_roomMail {notice : Notice} {except : Option PlayerId} {delivery : Delivery}
    (member : delivery ∈ server.roomMail number notice except) : delivery.notice = notice := by
  rcases List.mem_filterMap.1 member with ⟨player, _, sent⟩
  rcases Option.map_eq_some_iff.1 sent with ⟨connection, _, rfl⟩
  rfl

theorem plain_roomMail {notice : Notice} (plain : notice ≠ .ok .play) (number : RoomId)
    (except : Option PlayerId) :
    ∀ delivery ∈ server.roomMail number notice except, delivery.notice ≠ .ok .play := by
  intro delivery member
  rwa [mem_roomMail member]

theorem quietly_roomMail (server : Server) (told : ConnectionId → Bool) (number : RoomId)
    {notice : Notice} (idle : notice.IsTalk) (except : Option PlayerId) :
    server.Quietly told (server.saying (server.roomMail number notice except)) := by
  apply quietly_saying
  intro delivery member
  rw [mem_roomMail member]
  exact idle

/-- Somebody is shown the room. -/
theorem quietly_picture (linked : server.Linked) (sits : server.Sits id player number)
    {notice : Notice} (pictured : (server.scene told number).Pictured player notice) :
    server.Quietly told (server.tell id notice) := by
  refine quietly_of_shown [{ connection := id, notice }] ⟨?_, ?_⟩ rfl ?_ (.refl _)
  · rintro asked other place ⟨leads, seats⟩
    have sat : server.Sits asked other place := ⟨leads, seats⟩
    refine .stays sat ?_
    rw [wordsTo_tell]
    split
    · next same =>
      subst same
      rcases linked.sits_unique sits sat with ⟨rfl, rfl⟩
      exact .picture pictured
    · exact .talk (by simp)
  · intro asked session found unnamed
    refine ⟨⟨session, found, unnamed⟩, ?_⟩
    have other : asked ≠ id := by
      rintro rfl
      rcases linked.indexed.exists_identity sits.leads with ⟨holder, nickname, found', carries⟩
      cases Option.some.inj (found.symm.trans found')
      cases unnamed.symm.trans carries
    simp [wordsTo_tell, other]
  · intro delivery member
    rw [List.mem_singleton.1 member]
    cases pictured <;> simp

/-! ## Sleepers -/

/-- A room in which somebody is known to have fallen asleep or to have woken up. -/
theorem scene_update (indexed : server.sessions.Indexed) (awake : Bool)
    (leads : server.sessions.findPlayer? player = some id) (number : RoomId) :
    server.scene (Function.update told id awake) number =
      (server.scene told number).told player awake := by
  have guests (other : PlayerId) : server.guest? (Function.update told id awake) other =
      (server.guest? told other).map (Guest.told player awake) := by
    cases leads' : server.sessions.findPlayer? other with
    | none => simp [guest?, leads']
    | some id' =>
      cases named : server.nicknameOf? other with
      | none => simp [guest?, leads', named]
      | some nickname =>
        rw [guest?_eq leads' named, guest?_eq leads' named, Option.map_some, Guest.told]
        by_cases same : other = player
        · subst same
          cases Option.some.inj (leads.symm.trans leads')
          simp
        · have apart : id' ≠ id := by
            rintro rfl
            exact same (indexed.eq_of_findPlayer? leads' leads)
          simp [same, apart]
  cases found : server.lobby.room? number with
  | none => simp [scene, found, Scene.told]
  | some room =>
    rw [scene_of_room? found, scene_of_room? found, Scene.told, List.map_filterMap]
    simp only [guests]

/-- The others in a room are told that somebody has fallen asleep or has woken up. -/
theorem shown_doze (linked : server.Linked) (sits : server.Sits id player number) (awake : Bool)
    {nickname : String} (named : server.nicknameOf? player = some nickname) {mail : List Delivery}
    (mail_eq : mail = server.roomMail number (if awake then .awake nickname else .sleep nickname)
      (some player)) :
    server.Shown told (server.saying mail) (Function.update told id awake) (wordsTo mail) := by
  rcases sits.seats with ⟨room, found, member⟩
  have hosts := linked.hosts found
  refine shown_of_room number (samePeople_of_eq rfl) linked.indexed (fun _ _ => rfl)
    (fun seats seats' => linked.alone seats' seats) ?_ ?_
  · intro asked absent
    have other : asked ≠ id := by
      rintro rfl
      exact absent player ⟨sits.leads, sits.seats⟩
    refine ⟨?_, Function.update_of_ne other _ _⟩
    rw [mail_eq]
    exact wordsTo_roomMail_of_absent absent _ _
  · rintro asked me ⟨leads, room', found', member'⟩
    have sat : server.Sits asked me number := ⟨leads, room', found', member'⟩
    refine .stays sat ?_
    cases Option.some.inj (found.symm.trans found')
    rcases sits.exists_guest linked told named with ⟨guest, seen, rfl, rfl⟩
    have scenes : (server.saying mail).scene (Function.update told id awake) number =
        (server.scene told number).told guest.player awake :=
      scene_update linked.indexed awake sits.leads number
    rw [scenes, mail_eq, wordsTo_roomMail linked.indexed hosts leads member']
    refine .doze (distinct_scene linked.indexed told number) seen ?_
    simp

theorem Linked.known (linked : server.Linked) {session : Session} {identity : Identity}
    (found : server.sessions.get? id = some session) (carries : session.identity = some identity) :
    server.sessions.findPlayer? identity.player = some id ∧
      server.nicknameOf? identity.player = some identity.nickname := by
  have leads := (linked.indexed.byPlayer identity.player id).2
    ⟨session, found, Session.player?_of_identity carries⟩
  refine ⟨leads, ?_⟩
  rw [nicknameOf?_eq leads found, Session.nickname?, carries]
  rfl

theorem Linked.sits (linked : server.Linked) {session : Session} {identity : Identity}
    (found : server.sessions.get? id = some session) (carries : session.identity = some identity)
    (inside : session.location.room? = some number) : server.Sits id identity.player number := by
  rcases linked.exists_seat found inside with ⟨identity', room, carries', here, member, _⟩
  cases Option.some.inj (carries.symm.trans carries')
  exact ⟨(linked.known found carries).1, room, here, member⟩

theorem Linked.sits_of_seated? (linked : server.Linked) {identity : Identity}
    (seated : server.seated? id = some (identity, number)) :
    server.Sits id identity.player number ∧
      server.nicknameOf? identity.player = some identity.nickname := by
  rcases seated?_eq_some seated with ⟨session, found, carries, inside⟩
  exact ⟨linked.sits found carries inside, (linked.known found carries).2⟩

theorem Linked.not_sits_of_seated? (linked : server.Linked) (missing : server.seated? id = none) :
    ∀ player number, ¬server.Sits id player number := by
  rintro player number ⟨leads, seats⟩
  rcases linked.indexed.exists_identity leads with ⟨session, nickname, found, carries⟩
  have player := Session.player?_of_identity carries
  exact linked.not_seats found (seated?_eq_none missing found player) player number seats

/-- The room of a connection, if it has one, is told that it sleeps or is awake. -/
theorem Tracks.doze {heard : ConnectionId → List Notice} {plays : ConnectionId → List Card}
    (tracks : server.Tracks told heard plays) (linked : server.Linked) (id : ConnectionId)
    (awake : Bool) :
    (match server.seated? id with
      | some (identity, number) => server.tellRoom number
          (if awake then .awake identity.nickname else .sleep identity.nickname)
          (some identity.player)
      | none => server).Tracks (Function.update told id awake) heard plays := by
  cases seat : server.seated? id with
  | none =>
    apply tracks.of_told
    intro asked player number sits
    have other : asked ≠ id := by
      rintro rfl
      exact linked.not_sits_of_seated? seat player number sits
    exact Function.update_of_ne other _ _
  | some seated =>
    rcases seated with ⟨identity, number⟩
    rcases linked.sits_of_seated? seat with ⟨sits, named⟩
    simp only [tellRoom_eq_saying]
    have shown := @shown_doze _ told _ _ _ linked sits awake _ named _ rfl
    have spoken := @spoken_of_saying server (server.saying (server.roomMail number
      (if awake then .awake identity.nickname else .sleep identity.nickname)
      (some identity.player))) _ rfl (plain_roomMail (by cases awake <;> simp) _ _)
    simpa [card?_wordsTo] using tracks.step shown spoken

theorem Tracks.wake {heard : ConnectionId → List Notice} {plays : ConnectionId → List Card}
    (tracks : server.Tracks told heard plays) (linked : server.Linked) (id : ConnectionId) :
    (server.tellWake id).Tracks (Function.update told id true) heard plays := by
  have woken := tracks.doze linked id true
  cases seat : server.seated? id with
  | none => simpa [tellWake, seat] using woken
  | some seated => simpa [tellWake, seat] using woken

/-! ## Sessions without a seat -/

/-- Whoever has a seat has a connection. -/
def Led (server : Server) : Prop :=
  ∀ {player number}, server.lobby.Seats number player →
    ∃ id, server.sessions.findPlayer? player = some id

theorem Linked.led (linked : server.Linked) : server.Led := by
  rintro player number ⟨room, found, member⟩
  exact (linked.hosts found).led player member

/-- Nobody sees a change of the register that leaves whoever is seated alone. -/
theorem quietly_of_register {mail : List Delivery} (led : server.Led)
    (indexed : server.sessions.Indexed) (indexed' : next.sessions.Indexed)
    (lobby : next.lobby = server.lobby)
    (sessions : ∀ {asked player number}, server.Sits asked player number →
      next.sessions.get? asked = server.sessions.get? asked ∧ wordsTo mail asked = [])
    (nameless : ∀ {asked session}, next.sessions.get? asked = some session →
      session.identity = none → server.sessions.get? asked = some session ∧ wordsTo mail asked = [])
    (said : next.said = mail.reverse ++ server.said)
    (plain : ∀ delivery ∈ mail, delivery.notice ≠ .ok .play)
    (keeps : server.sessions.Keeps next.sessions) : server.Quietly told next := by
  have kept : ∀ {player number}, server.lobby.Seats number player → ∃ id,
      server.sessions.findPlayer? player = some id ∧ next.sessions.findPlayer? player = some id ∧
        next.sessions.get? id = server.sessions.get? id := by
    intro player number seats
    rcases led seats with ⟨id, leads⟩
    have same := (sessions ⟨leads, seats⟩).1
    rcases (indexed.byPlayer player id).1 leads with ⟨session, found, carries⟩
    exact ⟨id, leads, (indexed'.byPlayer player id).2 ⟨session, same.trans found, carries⟩, same⟩
  refine quietly_of_shown mail ⟨?_, ?_⟩ said plain keeps
  · rintro asked player number ⟨leads', seats⟩
    rw [lobby] at seats
    rcases kept seats with ⟨id, leads, leads'', _⟩
    cases Option.some.inj (leads'.symm.trans leads'')
    have sat : server.Sits asked player number := ⟨leads, seats⟩
    refine .stays sat ?_
    have scenes : next.scene told number = server.scene told number := by
      apply scene_congr (by rw [lobby])
      intro other seats'
      rcases kept seats' with ⟨connection, first, second, same⟩
      apply guest?_congr (second.trans first.symm) _ fun _ _ => rfl
      simp [nicknameOf?, carrier?, first, second, same]
    rw [scenes, (sessions sat).2]
    exact .talk (by simp)
  · intro asked session found unnamed
    rcases nameless found unnamed with ⟨found', silent⟩
    exact ⟨⟨session, found', unnamed⟩, by simp [silent]⟩

/-- Nobody sees a session end that has no seat. -/
theorem quietly_close (indexed : server.sessions.Indexed) (led : server.Led)
    (unseated : ∀ player number, ¬server.Sits id player number) :
    server.Quietly told { server with sessions := (server.sessions.close id).2 } := by
  have after := Sessions.get?_close server.sessions id
  refine @quietly_of_register server _ told [] led indexed (indexed.close id) rfl ?_ ?_ rfl (by simp)
    (Sessions.keeps_close _ _)
  · intro asked player number sits
    have other : asked ≠ id := by
      rintro rfl
      exact unseated player number sits
    exact ⟨(after asked).trans (if_neg other), rfl⟩
  · intro asked session found unnamed
    change (server.sessions.close id).2.get? asked = some session at found
    rw [after] at found
    split at found
    · cases found
    · exact ⟨found, rfl⟩

theorem Sits.ne_of_unnamed (sits : server.Sits id player number) (linked : server.Linked)
    {session : Session} (found : server.sessions.get? session.id = some session)
    (unnamed : session.identity = none) : id ≠ session.id := by
  rintro rfl
  rcases linked.indexed.exists_identity sits.leads with ⟨holder, nickname, found', carries⟩
  cases Option.some.inj (found.symm.trans found')
  cases unnamed.symm.trans carries

/-- Whoever takes a free name has no seat yet. -/
theorem quietly_named (linked : server.Linked) {session : Session} {identity : Identity}
    (found : server.sessions.get? session.id = some session) (unnamed : session.identity = none)
    (free : server.sessions.findName? identity.nickname = none)
    (new : identity.player = server.nextPlayer) :
    server.Quietly told (({ server with
      nextPlayer := server.nextPlayer + 1
      sessions := server.sessions.named session identity } : Server).tell session.id
        (.ok .name)) := by
  have after := @Sessions.get?_named _ _ identity found
  have named := linked.named found unnamed free new
  refine @quietly_of_register server _ told [{ connection := session.id, notice := .ok .name }]
    linked.led linked.indexed named.indexed rfl ?_ ?_ rfl (by simp)
    (Sessions.keeps_named found identity)
  · intro asked player number sits
    have other := sits.ne_of_unnamed linked found unnamed
    refine ⟨(after asked).trans (if_neg other), ?_⟩
    rw [wordsTo_tell, if_neg other]
  · intro asked later found' nameless
    change (server.sessions.named session identity).get? asked = some later at found'
    rw [after] at found'
    split at found'
    · cases found'
      cases nameless
    · next other =>
      refine ⟨found', ?_⟩
      rw [wordsTo_tell, if_neg other]

/-! ## Taking a place over -/

/-- The server once the heir has what the previous session had. -/
abbrev withHeir (server : Server) (previous heir : Session) (identity : Identity) : Server :=
  { server with sessions := server.sessions.inherited previous heir identity }

theorem findPlayer?_withHeir (server : Server) (previous heir : Session) (identity : Identity)
    (player : PlayerId) : (server.withHeir previous heir identity).sessions.findPlayer? player =
      if player = identity.player then some heir.id else server.sessions.findPlayer? player :=
  Directory.get?_insert _ _ _ _

section Inherited

variable {previous heir : Session} {identity : Identity} (linked : server.Linked)
  (found : server.sessions.get? previous.id = some previous)
  (found' : server.sessions.get? heir.id = some heir) (carries : previous.identity = some identity)
  (unnamed : heir.identity = none) (different : previous.id ≠ heir.id)

include linked found found' carries unnamed different

/-- A room looks the same when a seat in it has been taken over, as long as nobody is told that the
player is awake. -/
theorem scene_withHeir (number : RoomId) : (server.withHeir previous heir identity).scene
    (Function.update told heir.id (told previous.id)) number = server.scene told number := by
  let next := server.withHeir previous heir identity
  have after : ∀ asked, next.sessions.get? asked = if asked = heir.id then
      some (heir.inherit previous) else if asked = previous.id then none
        else server.sessions.get? asked := Sessions.get?_inherited found' different
  have leads' := findPlayer?_withHeir server previous heir identity
  rcases linked.known found carries with ⟨owned, named⟩
  refine @scene_congr server next _ _ _ rfl ?_
  intro player seats
  by_cases owner : player = identity.player
  · subst owner
    have taken : next.sessions.findPlayer? identity.player = some heir.id :=
      (leads' _).trans (if_pos rfl)
    have named' : next.nicknameOf? identity.player = some identity.nickname := by
      rw [nicknameOf?_eq taken ((after heir.id).trans (if_pos rfl)), Session.nickname?,
        Session.inherit, carries]
      rfl
    rw [guest?_eq owned named, guest?_eq taken named', Function.update_self]
  · rcases linked.led seats with ⟨id, leads⟩
    rcases linked.indexed.exists_identity leads with ⟨session, nickname, live, _⟩
    have apart := Sits.ne_of_unnamed ⟨leads, seats⟩ linked found' unnamed
    have apart' : id ≠ previous.id := by
      rintro rfl
      exact owner (linked.indexed.eq_of_findPlayer? leads owned)
    have same := (leads' player).trans (if_neg owner)
    have live' := ((after id).trans ((if_neg apart).trans (if_neg apart'))).trans live
    refine guest?_congr same ?_ ?_
    · rw [nicknameOf?_eq (same.trans leads) live', nicknameOf?_eq leads live]
    · intro id' leads''
      cases Option.some.inj (leads.symm.trans leads'')
      exact Function.update_of_ne apart _ _

/-- Nobody but the heir sees that a seat is taken over. -/
theorem shown_withHeir :
    server.Shown told
      (((server.withHeir previous heir identity).close previous.id .replaced).tell heir.id
        (.ok .name))
      (Function.update told heir.id (told previous.id))
      (wordsTo [{ connection := heir.id, notice := .ok .name }]) := by
  let next := server.withHeir previous heir identity
  refine ⟨?_, ?_⟩
  · rintro asked player number ⟨leads, seats⟩
    change next.sessions.findPlayer? player = some asked at leads
    rw [findPlayer?_withHeir] at leads
    split at leads
    · cases leads
      refine .comes (.ok .name) ?_ trivial (.inr ⟨heir, found', unnamed⟩)
      rw [wordsTo_tell, if_pos rfl]
    · have sat : server.Sits asked player number := ⟨leads, seats⟩
      have apart := sat.ne_of_unnamed linked found' unnamed
      have scenes := @scene_withHeir _ told _ _ _ linked found found' carries unnamed different
        number
      refine .stays sat ?_
      rw [wordsTo_tell, if_neg apart]
      change Sees player _ [] (next.scene _ number)
      rw [scenes]
      exact .talk (by simp)
  · intro asked session live nameless
    change next.sessions.get? asked = some session at live
    rw [Sessions.get?_inherited found' different] at live
    split at live
    · cases live
      cases carries.symm.trans nameless
    · next other =>
      split at live
      · cases live
      · refine ⟨⟨session, live, nameless⟩, ?_⟩
        rw [wordsTo_tell, if_neg other]
        simp

end Inherited

end CardTable.Server
