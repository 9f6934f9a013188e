import CardTable.Proofs.Server.Visits

/-!
# Arrivals

What clients see when somebody takes a sleeper's place over or comes into a room from the lobby.
-/

namespace CardTable.Server

variable {server : Server} {told : ConnectionId → Bool} {id : ConnectionId}
  {player : PlayerId} {number : RoomId} {room : Room}

/-- Whoever takes a sleeper's nickname is seen to wake up. -/
theorem quietly_inherited (linked : server.Linked) {previous heir : Session} {identity : Identity}
    (found : server.sessions.get? previous.id = some previous)
    (found' : server.sessions.get? heir.id = some heir) (carries : previous.identity = some identity)
    (unnamed : heir.identity = none) (different : previous.id ≠ heir.id)
    (awake : told heir.id = true) :
    server.Quietly told
      ((((server.withHeir previous heir identity).close previous.id .replaced).tell heir.id
        (.ok .name)).tellWake heir.id) := by
  have inherited := linked.inherited found found' carries unnamed different
  have taken := (inherited.closing previous.id .replaced).tell heir.id (.ok .name)
  have shown := @shown_withHeir _ told _ _ _ linked found found' carries unnamed different
  refine ⟨?_, ?_⟩
  · intro heard plays tracks
    have spoken := @spoken_of_saying server
      (((server.withHeir previous heir identity).close previous.id .replaced).tell heir.id
        (.ok .name))
      [{ connection := heir.id, notice := .ok .name }] rfl (by simp)
    -- Until the room is told, the heir passes for asleep or awake as the previous session did.
    have woken := (tracks.step shown spoken).wake taken heir.id
    rw [Function.update_idem, ← awake, Function.update_eq_self] at woken
    simpa [card?_wordsTo] using woken
  · rw [tellWake_eq_saying]
    exact Sessions.keeps_inherited found' different identity

/-- Somebody who is awake is seen to take the last seat. -/
theorem scene_entered {next : Server} (people : server.SamePeople next)
    (leads : server.sessions.findPlayer? player = some id) {nickname : String}
    (named : server.nicknameOf? player = some nickname) (awake : told id = true)
    (found : server.lobby.room? number = some room)
    (here : next.lobby.room? number = some { room with players := room.players ++ [player] }) :
    next.scene told number =
      { server.scene told number with
        guests := (server.scene told number).guests ++ [{ player, nickname, awake := true }] } := by
  have same : next.guest? told = server.guest? told := funext (people.guest? told)
  rw [scene_of_room? here, scene_of_room? found, same, List.filterMap_append]
  simp [guest?_eq leads named told, awake]

/-- Whoever comes into a room from the lobby is told so first, and then the others are told who has
come. -/
theorem quietly_enter {lobby : Lobby} {nickname : String} {command : Command}
    {mail : List Delivery}
    (indexed : server.sessions.Indexed) (leads : server.sessions.findPlayer? player = some id)
    (named : server.nicknameOf? player = some nickname) (awake : told id = true)
    (elsewhere : ∀ asked, asked ≠ number → lobby.room? asked = server.lobby.room? asked)
    (here : lobby.room? number = some { room with players := room.players ++ [player] })
    (waiting : room.stage = .waiting)
    (before : ∀ other ∈ room.players, server.lobby.room? number = some room)
    (entered : (({ server with lobby } : Server).move id (.room number)).Linked)
    (enters : (Notice.ok command).Enters)
    (mail_eq : mail = { connection := id, notice := .ok command } ::
      (({ server with lobby } : Server).move id (.room number)).roomMail number (.join nickname)
        (some player)) :
    server.Quietly told
      ((({ server with lobby } : Server).move id (.room number)).saying mail) := by
  let moved : Server := ({ server with lobby } : Server).move id (.room number)
  have move := moved_moveAll { server with lobby } [id] (.room number)
  have people : server.SamePeople moved := ⟨move.byPlayer, move.identity⟩
  have here' : moved.lobby.room? number =
    some { room with players := room.players ++ [player] } := here
  have hosts := entered.hosts here'
  have leads' : moved.sessions.findPlayer? player = some id := (people.findPlayer? player).trans leads
  have sits : moved.Sits id player number := ⟨leads', _, here', by simp⟩
  have shown : server.Shown told (moved.saying mail) told (wordsTo mail) := by
    refine shown_of_room number ⟨people.byPlayer, people.identity⟩ indexed elsewhere
      (fun seats seats' => entered.alone seats' seats) ?_ ?_
    · intro asked absent
      have other : asked ≠ id := by
        rintro rfl
        exact absent player ⟨sits.leads, sits.seats⟩
      have silent := @wordsTo_roomMail_of_absent moved asked number
        (fun player sits => absent player ⟨sits.leads, sits.seats⟩) (.join nickname) (some player)
      rw [mail_eq, wordsTo_cons, if_neg (Ne.symm other), List.nil_append]
      exact ⟨silent, rfl⟩
    · rintro asked me ⟨leads'', seats⟩
      rcases seats with ⟨room', found, member⟩
      cases Option.some.inj (found.symm.trans here')
      have heard := wordsTo_roomMail entered.indexed hosts leads'' member (.join nickname)
        (some player)
      by_cases new : me = player
      · subst new
        cases Option.some.inj (leads'.symm.trans leads'')
        have idle : (moved.scene told number).game = none := by
          rw [game_scene here', waiting]
          rfl
        refine .comes (.ok command) ?_ enters (.inl idle)
        rw [mail_eq, wordsTo_cons, if_pos rfl, heard, if_pos rfl]
        rfl
      · have old : me ∈ room.players := by simpa [new] using member
        have there := before me old
        have sat : server.Sits asked me number :=
          ⟨(people.findPlayer? me).symm.trans leads'', room, there, old⟩
        have other : asked ≠ id := by
          rintro rfl
          exact new (indexed.eq_of_findPlayer? sat.leads leads)
        have said : server.SamePeople (moved.saying mail) := ⟨people.byPlayer, people.identity⟩
        have grown := scene_entered said leads named awake there here
        have idle : (server.scene told number).game = none := by
          rw [game_scene there, waiting]
          rfl
        refine .stays sat ?_
        rw [grown, mail_eq, wordsTo_cons, if_neg (Ne.symm other), List.nil_append, heard,
          if_neg (by simpa using Ne.symm new)]
        exact @Sees.join me (server.scene told number) { player, nickname, awake := true } rfl idle
  refine quietly_of_shown mail shown rfl ?_ move.keeps
  have answers : Notice.ok command ≠ .ok .play := by
    rintro ⟨⟩
    exact enters
  rw [mail_eq]
  exact List.forall_mem_cons.2 ⟨answers, plain_roomMail (by simp) _ _⟩

end CardTable.Server
