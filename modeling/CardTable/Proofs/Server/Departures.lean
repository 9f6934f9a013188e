import CardTable.Proofs.Server.Tables

/-!
# Departures

What clients see when somebody leaves a room, of their own accord or because the session ends: who
has left, and then whose turn it is, or that the game is over.
-/

namespace CardTable.Server

variable {server next : Server} {told : ConnectionId → Bool} {id : ConnectionId}
  {player : PlayerId} {identity : Identity} {number : RoomId} {room rest : Room}

/-! ## The end of a game -/

theorem talk_closingMail {ending : Ending} {delivery : Delivery}
    (member : delivery ∈ server.closingMail number room ending) : delivery.notice.IsTalk := by
  rw [closingMail] at member
  split at member
  · rcases List.mem_append.1 member with verdict | ranking
    · rcases List.mem_filterMap.1 verdict with ⟨player, _, sent⟩
      rcases Option.map_eq_some_iff.1 sent with ⟨connection, _, rfl⟩
      cases ending <;> trivial
    · rw [mem_roomMail ranking]
      trivial
  · cases member

theorem wordsTo_closingMail_of_absent {ending : Ending}
    (found : server.lobby.room? number = some room)
    (absent : ∀ player, ¬server.Sits id player number) :
    wordsTo (server.closingMail number room ending) id = [] := by
  rw [closingMail]
  split
  · rw [wordsTo_append, wordsTo_roomMail_of_absent absent, List.append_nil]
    apply wordsTo_mailTo_of_absent
    intro player member leads
    exact absent player ⟨leads, room, found, (List.mem_filter.1 member).1⟩
  · rfl

/-! ## A room without a player -/

/-- The server with a changed room in the place of the one that has its number. -/
abbrev putRoom (server : Server) (room : Room) : Server :=
  { server with lobby := server.lobby.put room }

section Left

variable (linked : server.Linked) (found : server.lobby.room? number = some room)
  (filed : rest.id = number)

include linked found filed

/-- Nobody is there to see the last player of a room leave. -/
theorem quietly_emptied (empty : rest.players = []) {notice : Notice} (plain : notice ≠ .ok .play) :
    server.Quietly told (({ server with
        lobby := (server.lobby.put rest).remove number } : Server).saying
      ((server.putRoom rest).roomMail number notice none)) := by
  have put := Lobby.room?_put_of_room? found filed
  have here : (server.lobby.put rest).room? number = some rest := (put number).trans (if_pos rfl)
  have gone : ((server.lobby.put rest).remove number).room? number = none := by
    rw [Lobby.room?_remove, if_pos rfl]
  have elsewhere : ∀ asked, asked ≠ number →
      ((server.lobby.put rest).remove number).room? asked = server.lobby.room? asked := by
    intro asked other
    rw [Lobby.room?_remove, if_neg other, put, if_neg other]
  have silent (id : ConnectionId) :
      wordsTo ((server.putRoom rest).roomMail number notice none) id = [] := by
    apply wordsTo_roomMail_of_absent
    rintro player ⟨_, seats⟩
    have member := (Lobby.seats_iff here).1 seats
    rw [empty] at member
    cases member
  have nobody : ∀ other, ¬((server.lobby.put rest).remove number).Seats number other := by
    rintro other ⟨room', found', _⟩
    cases gone.symm.trans found'
  refine quietly_of_shown _ (shown_of_room _ (samePeople_of_eq rfl) linked.indexed elsewhere
    (fun seats _ => (nobody _ seats).elim) (fun id _ => ⟨silent id, rfl⟩) ?_) rfl
    (plain_roomMail plain _ _) (.refl _)
  rintro id player ⟨_, seats⟩
  exact (nobody player seats).elim

section Remains

variable (players : rest.players = room.players.erase player)

include players

theorem scene_left (told : ConnectionId → Bool) : (server.putRoom rest).scene told number =
    (server.scene told number).without player rest.stage.on? := by
  have here : (server.lobby.put rest).room? number = some rest :=
    (Lobby.room?_put_of_room? found filed number).trans (if_pos rfl)
  have distinct := (linked.orderly.sound found).distinct
  rw [@scene_of_room? (server.putRoom rest) _ _ _ here,
    scene_of_room? found, players, distinct.erase_eq_filter, Scene.without]
  have guests : (room.players.filter (· != player)).filterMap (server.guest? told) =
      (room.players.filterMap (server.guest? told)).filter fun guest => guest.player ≠ player := by
    rw [List.filterMap_filter, List.filter_filterMap]
    apply List.filterMap_congr
    intro other _
    cases seen : server.guest? told other with
    | none => simp
    | some guest =>
      rw [Option.filter_some, (guest?_eq_some seen).1]
      simp
  rw [← guests]
  rfl

theorem hosts_left (sound : rest.Sound) :
    (server.putRoom rest).Hosts number rest := by
  refine ⟨(Lobby.room?_put_of_room? found filed number).trans (if_pos rfl), sound, ?_⟩
  intro other member
  rw [players] at member
  exact (linked.hosts found).led other (List.mem_of_mem_erase member)

/-- The others see that somebody has left, and what else they are told. -/
theorem quietly_left (sound : rest.Sound) {nickname : String} {later mail : List Delivery}
    (within : ∀ asked, (∀ player, ¬(server.putRoom rest).Sits asked player number) →
      wordsTo later asked = [])
    (plain : ∀ delivery ∈ later, delivery.notice ≠ .ok .play)
    (sees : ∀ {asked me}, server.sessions.findPlayer? me = some asked → me ∈ rest.players →
      Sees me (server.scene told number) (.said (.leave nickname) :: wordsTo later asked)
        ((server.scene told number).without player rest.stage.on?))
    (mail_eq : mail = (server.putRoom rest).roomMail number (.leave nickname) none ++ later) :
    server.Quietly told ((server.putRoom rest).saying mail) := by
  have hosts := hosts_left linked found filed players sound
  have put := Lobby.room?_put_of_room? found filed
  have kept {asked : RoomId} {other : PlayerId} (seats : (server.lobby.put rest).Seats asked other) :
      server.lobby.Seats asked other := by
    by_cases same : asked = number
    · subst same
      have member := (Lobby.seats_iff hosts.found).1 seats
      rw [players] at member
      exact ⟨room, found, List.mem_of_mem_erase member⟩
    · rwa [Lobby.Seats, put, if_neg same] at seats
  refine quietly_of_shown _ (shown_of_room _ (samePeople_of_eq rfl) linked.indexed
    (fun asked other => (put asked).trans (if_neg other))
    (fun seats seats' => linked.alone (kept seats') (kept seats)) ?_ ?_) rfl ?_ (.refl _)
  · intro asked absent
    have outside : ∀ player, ¬(server.putRoom rest).Sits asked player number :=
      fun player sits => absent player ⟨sits.leads, sits.seats⟩
    refine ⟨?_, rfl⟩
    rw [mail_eq, wordsTo_append, wordsTo_roomMail_of_absent outside, within asked outside]
    rfl
  · rintro asked me ⟨leads, seats⟩
    have member := (Lobby.seats_iff hosts.found).1 seats
    have seen := @sees asked me leads member
    have scenes := scene_left linked found filed players told
    have first := @wordsTo_roomMail (server.putRoom rest) _ _ _ _ linked.indexed hosts leads member
      (.leave nickname) none
    refine .stays ⟨leads, kept seats⟩ ?_
    rw [mail_eq, wordsTo_append, first, if_neg (by simp)]
    exact scenes ▸ seen
  · rw [mail_eq]
    exact List.forall_mem_append.2 ⟨plain_roomMail (by simp) _ _, plain⟩

variable (sound : rest.Sound) {leaver : Guest} (seen : leaver ∈ (server.scene told number).guests)
  (same : leaver.player = player)

include sound seen same

/-- The others see that somebody has left, and hear no more than talk; no game goes on. -/
theorem quietly_left_of_idle (idle : rest.stage.on? = none) {later mail : List Delivery}
    (within : ∀ asked, (∀ player, ¬(server.putRoom rest).Sits asked player number) →
      wordsTo later asked = [])
    (talk : ∀ delivery ∈ later, delivery.notice.IsTalk)
    (mail_eq : mail = (server.putRoom rest).roomMail number (.leave leaver.nickname) none ++ later) :
    server.Quietly told ((server.putRoom rest).saying mail) := by
  refine quietly_left linked found filed players sound within
    (fun delivery member => (talk delivery member).ne_ok_play) ?_ mail_eq
  intro asked me _ _
  have calm : ∀ word ∈ wordsTo later asked, word.IsTalk := forall_mem_wordsTo talk asked
  rw [idle, ← same]
  exact .leave (distinct_scene linked.indexed told number) seen
    fun word heard => (calm word heard).keepsRoster

/-- The others see that somebody has left, and whose turn it is in the game that goes on. -/
theorem quietly_left_of_playing {game after : Game} (playing : room.stage = .playing game)
    (stage : rest.stage = .playing after) (removed : game.remove player = .ok after)
    {mail : List Delivery}
    (mail_eq : mail = (server.putRoom rest).roomMail number (.leave leaver.nickname) none ++
      (server.putRoom rest).turnMail number) :
    server.Quietly told ((server.putRoom rest).saying mail) := by
  refine quietly_left linked found filed players sound
    (fun asked absent => wordsTo_turnMail_of_absent absent) (plain_turnMail _ _) ?_ mail_eq
  intro asked me leads stayer
  have hosts := hosts_left linked found filed players sound
  rcases @wordsTo_turnMail (server.putRoom rest) _ _ _ _ linked.indexed hosts told _ stage leads
    stayer with ⟨turn, shows_turn, heard⟩
  rw [scene_left linked found filed players told, stage] at shows_turn
  rw [players] at stayer
  have other : player ≠ me :=
    ((linked.orderly.sound found).distinct.mem_erase_iff.1 stayer).1.symm
  have on : (server.scene told number).game = some game := by
    rw [game_scene found, playing]
    rfl
  have apart : ∀ other, other ≠ player → after.hand? other = game.hand? other :=
    fun _ other => Game.hand?_of_remove removed other
  rw [heard, stage]
  rw [← same] at other apart shows_turn ⊢
  exact .quit (distinct_scene linked.indexed told number) on seen other apart shows_turn

end Remains

end Left

/-! ## Departures -/

/-- A room that a player has left: it is closed, or its game has been ended, or no game is on in it,
or its game goes on. In each case the others hear who has left, and then what has come of it. -/
inductive Departs (server : Server) (nickname : String) (number : RoomId) (room rest : Room)
    (player : PlayerId) : Server → Prop
  | emptied (empty : rest.players = []) : Departs server nickname number room rest player
      (({ server with lobby := (server.lobby.put rest).remove number } : Server).saying
        ((server.putRoom rest).roomMail number (.leave nickname) none))
  | ended {game after : Game} (sound : rest.Sound) (playing : room.stage = .playing game)
      (removed : game.remove player = .ok after) (finished : rest.stage = .finished after) :
      Departs server nickname number room rest player
        ((server.putRoom rest).saying
          ((server.putRoom rest).roomMail number (.leave nickname) none ++
            (server.putRoom rest).closingMail number rest .forfeit))
  | idle (sound : rest.Sound) (idle : rest.stage.on? = none) (same : rest.stage = room.stage) :
      Departs server nickname number room rest player
        ((server.putRoom rest).saying
          ((server.putRoom rest).roomMail number (.leave nickname) none))
  | goes_on {game after : Game} (sound : rest.Sound) (playing : room.stage = .playing game)
      (removed : game.remove player = .ok after) (stage : rest.stage = .playing after) :
      Departs server nickname number room rest player
        ((server.putRoom rest).saying
          ((server.putRoom rest).roomMail number (.leave nickname) none ++
            (server.putRoom rest).turnMail number))

theorem departs_of_depart (linked : server.Linked) (found : server.lobby.room? number = some room)
    (member : identity.player ∈ room.players) (left : server.depart identity number = .ok next) :
    ∃ rest, rest.id = number ∧ rest.config = room.config ∧
      rest.players = room.players.erase identity.player ∧
      server.Departs identity.nickname number room rest identity.player next := by
  rcases (linked.orderly.sound found).leave member with
    ⟨departure, rest, taken, same, config, players, _, empty, sound⟩
  have filed : rest.id = number := same.trans (linked.orderly.filed found)
  have left' := Lobby.leave_of_room? found taken
  have here : (server.lobby.put rest).room? number = some rest :=
    (Lobby.room?_put_of_room? found filed number).trans (if_pos rfl)
  refine ⟨rest, filed, config, players, ?_⟩
  -- The leaver was the last player, or ended the game by leaving, or leaves the room as it was.
  cases departure with
  | emptied =>
    simp only [depart, left', tellRoom_eq_saying] at left
    cases left
    exact .emptied (empty.1 rfl)
  | endedGame =>
    have stays : rest.players ≠ [] := fun gone => by cases empty.2 gone
    rcases Room.stage_of_leave taken stays with
      ⟨game, after, playing, removed, stage⟩ | ⟨_, open_still, _⟩
    · simp only [depart, left', tellRoom_eq_saying] at left
      have ends := @finishGame_eq_saying (server.putRoom rest) _ _ here
        ((server.putRoom rest).roomMail number (.leave identity.nickname) none) .forfeit
      rw [(sound stays).conclude, Lobby.put_put rfl] at ends
      rw [ends] at left
      cases left
      exact .ended (sound stays) playing removed stage
    · exact (open_still rfl).elim
  | stayed =>
    have stays : rest.players ≠ [] := fun gone => by cases empty.2 gone
    simp only [depart, left', tellRoom_eq_saying, lobby_saying, here, Option.any_some] at left
    rcases Room.stage_of_leave taken stays with
      ⟨game, after, playing, removed, stage⟩ | ⟨idle, _, same⟩
    · rw [if_neg (by simp)] at stage
      have on : rest.state = .playing := by rw [Room.state, stage]; rfl
      rw [if_pos (by simpa using on), tellTurn_eq_saying, saying_saying] at left
      cases left
      exact .goes_on (sound stays) playing removed stage
    · have off : ¬rest.state = .playing := by
        rw [Room.state, same]
        cases stage : room.stage <;> simp_all [Stage.state]
      rw [if_neg (by simpa using off)] at left
      cases left
      refine .idle (sound stays) ?_ same
      rw [same]
      cases stage : room.stage <;> simp_all [Stage.on?]

/-- The others in the room see somebody leave. -/
theorem quietly_depart (linked : server.Linked) (sits : server.Sits id identity.player number)
    (named : server.nicknameOf? identity.player = some identity.nickname)
    (left : server.depart identity number = .ok next) : server.Quietly told next := by
  rcases sits.seats with ⟨room, found, member⟩
  rcases departs_of_depart linked found member left with ⟨rest, filed, _, players, departs⟩
  have here : (server.lobby.put rest).room? number = some rest :=
    (Lobby.room?_put_of_room? found filed number).trans (if_pos rfl)
  rcases sits.exists_guest linked told named with ⟨leaver, seen, who, nicknames⟩
  rw [← nicknames] at departs
  cases departs with
  | emptied empty => exact quietly_emptied linked found filed empty (by simp)
  | ended sound playing removed finished =>
    exact quietly_left_of_idle linked found filed players sound seen who (by rw [finished]; rfl)
      (fun asked absent => wordsTo_closingMail_of_absent here absent)
      (fun delivery member => talk_closingMail member) rfl
  | idle sound idle same =>
    exact quietly_left_of_idle linked found filed players sound seen who idle
      (fun _ _ => wordsTo_nil _) (by simp) (List.append_nil _).symm
  | goes_on sound playing removed stage =>
    exact quietly_left_of_playing linked found filed players sound seen who playing stage removed rfl

/-! ## The end of a session -/

theorem quietly_closing (server : Server) (told : ConnectionId → Bool) (id : ConnectionId)
    (cause : ClosingCause) : server.Quietly told (server.close id cause) :=
  quietly_of_people [] (samePeople_of_eq rfl) rfl rfl (by simp) (.refl _)

/-- Once a player has left, nobody but the others has a seat. -/
theorem seats_of_without (linked : server.Linked) {lobby : Lobby}
    (seated : server.lobby.Seats number player) (without : server.lobby.Without number player lobby)
    {asked : RoomId} {other : PlayerId} (seats : lobby.Seats asked other) :
    server.lobby.Seats asked other ∧ other ≠ player := by
  by_cases same : asked = number
  · subst same
    exact (without.seats other).1 seats
  · rw [Lobby.Seats, without.elsewhere asked same] at seats
    refine ⟨seats, ?_⟩
    rintro rfl
    exact same (linked.alone seats seated)

/-- The others in the room see that a session ends. -/
theorem quietly_terminate (linked : server.Linked) (told : ConnectionId → Bool) (id : ConnectionId)
    (reason : EndReason) : server.Quietly told (server.terminate id reason) := by
  cases seat : server.seated? id with
  | none =>
    have closed := @quietly_close _ told id linked.indexed linked.led
      (linked.not_sits_of_seated? seat)
    simp only [terminate, seat]
    split
    · next session rest ended =>
      rw [ended] at closed
      exact closed.trans (quietly_closing _ _ _ _)
    · exact quietly_closing _ _ _ _
  | some seated =>
    rcases seated with ⟨identity, number⟩
    rcases linked.sits_of_seated? seat with ⟨sits, named⟩
    rcases seated?_eq_some seat with ⟨session, found, _, _⟩
    have mourned := @quietly_roomMail server told number (.dead identity.nickname) trivial
      (some identity.player)
    simp only [terminate, seat, tellRoom_eq_saying]
    generalize server.roomMail _ _ _ = mail at mourned ⊢
    have linked' := linked.saying mail
    have sits' : (server.saying mail).Sits id identity.player number := ⟨sits.leads, sits.seats⟩
    rcases depart_eq_ok linked'.orderly sits'.seats with ⟨lobby, later, left, without⟩
    have departed := @quietly_depart _ _ told _ _ _ linked' sits' named left
    have kept {asked : RoomId} {other : PlayerId} := @seats_of_without _ _ _ linked' lobby sits'.seats
      without asked other
    let rest := ({ server.saying mail with lobby } : Server).saying later
    have led : rest.Led := fun seats => linked.led (kept seats).1
    have closed := @quietly_close rest told id linked'.indexed led (by
      rintro player asked ⟨leads, seats⟩
      exact (kept seats).2 (linked.indexed.eq_of_findPlayer? leads sits.leads))
    have quietly := mourned.trans (departed.trans closed)
    rw [left]
    split
    · next session remaining ended =>
      have same : (rest.sessions.close id).2 = remaining := congrArg Prod.snd ended
      rw [same] at quietly
      exact Quietly.trans quietly (quietly_closing _ _ _ _)
    · next ended =>
      change server.sessions.close id = (none, _) at ended
      simp [Sessions.close, found] at ended

end CardTable.Server
