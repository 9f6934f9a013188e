import CardTable.Proofs.Client.Scene
import CardTable.Proofs.Server.Seats

/-!
# The scenes of a server

What the players of a room are meant to see, read off the books of the server, and who hears what is
said to a room. Whether somebody is awake is taken from what the others have been told: within a call
that may lag behind the clocks.
-/

namespace CardTable

/-- The game of a stage while it is on. -/
def Stage.on? : Stage → Option Game
  | playing game => some game
  | _ => none

theorem Stage.on?_eq_some_iff {stage : Stage} {game : Game} :
    stage.on? = some game ↔ stage = playing game := by
  cases stage <;> simp [on?]

theorem Game.mem_players_of_currentPlayer? {game : Game} {player : PlayerId}
    (current : game.currentPlayer? = some player) : player ∈ game.players := by
  cases phase : game.phase with
  | finished => simp [currentPlayer?, phase] at current
  | active turn pending =>
    simp only [currentPlayer?, phase] at current
    rcases Option.map_eq_some_iff.1 current with ⟨seat, found, rfl⟩
    exact List.mem_map_of_mem (List.mem_of_getElem? found)

/-- What is said to a connection. -/
def wordsTo (mail : List Delivery) (id : ConnectionId) : List Word :=
  (mail.filter fun delivery => delivery.connection = id).map fun delivery => .said delivery.notice

section WordsTo

variable (mail later : List Delivery) (id : ConnectionId)

@[simp]
theorem wordsTo_nil : wordsTo [] id = [] := rfl

@[simp]
theorem wordsTo_append : wordsTo (mail ++ later) id = wordsTo mail id ++ wordsTo later id := by
  simp [wordsTo]

theorem wordsTo_cons (connection : ConnectionId) (notice : Notice) :
    wordsTo ({ connection, notice } :: mail) id =
      (if connection = id then [.said notice] else []) ++ wordsTo mail id := by
  simp only [wordsTo, List.filter_cons, decide_eq_true_eq]
  split <;> rfl

theorem forall_mem_wordsTo {mail : List Delivery} {holds : Word → Prop}
    (each : ∀ delivery ∈ mail, holds (.said delivery.notice)) (id : ConnectionId) :
    ∀ word ∈ wordsTo mail id, holds word := by
  intro word member
  rcases List.mem_map.1 member with ⟨delivery, sent, rfl⟩
  exact each delivery (List.mem_filter.1 sent).1

end WordsTo

namespace Sessions.Indexed

variable {sessions : Sessions} {id other : ConnectionId} {player player' : PlayerId}

/-- Whoever has a connection has an identity. -/
theorem exists_identity (indexed : sessions.Indexed) (leads : sessions.findPlayer? player = some id) :
    ∃ session nickname, sessions.get? id = some session ∧
      session.identity = some { nickname, player } := by
  rcases (indexed.byPlayer player id).1 leads with ⟨session, found, carries⟩
  rcases Option.map_eq_some_iff.1 carries with ⟨identity, known, rfl⟩
  exact ⟨session, identity.nickname, found, known⟩

theorem eq_of_findPlayer? (indexed : sessions.Indexed)
    (leads : sessions.findPlayer? player = some id)
    (leads' : sessions.findPlayer? player' = some id) : player = player' := by
  rcases indexed.exists_identity leads with ⟨session, nickname, found, carries⟩
  rcases indexed.exists_identity leads' with ⟨session', nickname', found', carries'⟩
  cases Option.some.inj (found.symm.trans found')
  cases Option.some.inj (carries.symm.trans carries')
  rfl

end Sessions.Indexed

namespace Server

variable {server next : Server} {told told' : ConnectionId → Bool} {id : ConnectionId}
  {player : PlayerId} {number : RoomId} {room : Room}

/-! ## Guests -/

/-- A player as the others are meant to see the player. -/
def guest? (server : Server) (told : ConnectionId → Bool) (player : PlayerId) : Option Guest := do
  let id ← server.sessions.findPlayer? player
  return { player, nickname := ← server.nicknameOf? player, awake := told id }

theorem guest?_eq (leads : server.sessions.findPlayer? player = some id) {nickname : String}
    (named : server.nicknameOf? player = some nickname) (told : ConnectionId → Bool) :
    server.guest? told player = some { player, nickname, awake := told id } := by
  simp [guest?, leads, named]

theorem guest?_eq_some {guest : Guest} (seen : server.guest? told player = some guest) :
    guest.player = player ∧ server.nicknameOf? player = some guest.nickname ∧
      ∃ id, server.sessions.findPlayer? player = some id ∧ guest.awake = told id := by
  cases leads : server.sessions.findPlayer? player with
  | none => simp [guest?, leads] at seen
  | some id =>
    cases named : server.nicknameOf? player with
    | none => simp [guest?, leads, named] at seen
    | some nickname =>
      rw [guest?_eq leads named, Option.some_inj] at seen
      rw [← seen]
      exact ⟨rfl, rfl, id, rfl, rfl⟩

theorem guest?_congr (leads : next.sessions.findPlayer? player = server.sessions.findPlayer? player)
    (named : next.nicknameOf? player = server.nicknameOf? player)
    (known : ∀ id, server.sessions.findPlayer? player = some id → told' id = told id) :
    next.guest? told' player = server.guest? told player := by
  rw [guest?, guest?, leads, named]
  cases found : server.sessions.findPlayer? player with
  | none => rfl
  | some id =>
    simp only [Option.bind_eq_bind, Option.bind_some]
    rw [known id found]

theorem nicknameOf?_eq (leads : server.sessions.findPlayer? player = some id) {session : Session}
    (found : server.sessions.get? id = some session) :
    server.nicknameOf? player = session.nickname? := by
  simp [nicknameOf?, carrier?, leads, found]

/-- Whoever has a connection has a nickname. -/
theorem exists_nickname (indexed : server.sessions.Indexed)
    (leads : server.sessions.findPlayer? player = some id) :
    ∃ session nickname, server.sessions.get? id = some session ∧
      session.identity = some { nickname, player } ∧ server.nicknameOf? player = some nickname := by
  rcases indexed.exists_identity leads with ⟨session, nickname, found, carries⟩
  refine ⟨session, nickname, found, carries, ?_⟩
  rw [nicknameOf?_eq leads found, Session.nickname?, carries]
  rfl

/-- Two players with the same nickname are the same. -/
theorem eq_of_nicknameOf? (indexed : server.sessions.Indexed) {other : PlayerId}
    {nickname : String} (named : server.nicknameOf? player = some nickname)
    (named' : server.nicknameOf? other = some nickname)
    (leads : server.sessions.findPlayer? player = some id) {id' : ConnectionId}
    (leads' : server.sessions.findPlayer? other = some id') : player = other := by
  rcases exists_nickname indexed leads with ⟨session, first, live, carries, known⟩
  rcases exists_nickname indexed leads' with ⟨session', second, live', carries', known'⟩
  cases Option.some.inj (named.symm.trans known)
  cases Option.some.inj (named'.symm.trans known')
  have owned := (indexed.byName nickname id).2 ⟨session, live, by simp [carries]⟩
  have owned' := (indexed.byName nickname id').2 ⟨session', live', by simp [carries']⟩
  cases Option.some.inj (owned.symm.trans owned')
  exact indexed.eq_of_findPlayer? leads leads'

/-! ## Scenes -/

/-- A room as its players are meant to see it. -/
def scene (server : Server) (told : ConnectionId → Bool) (number : RoomId) : Scene :=
  match server.lobby.room? number with
  | some room =>
    { guests := room.players.filterMap (server.guest? told), game := room.stage.on? }
  | none => { guests := [], game := none }

theorem scene_of_room? (found : server.lobby.room? number = some room) :
    server.scene told number =
      { guests := room.players.filterMap (server.guest? told), game := room.stage.on? } := by
  rw [scene, found]

theorem game_scene (found : server.lobby.room? number = some room) :
    (server.scene told number).game = room.stage.on? := by
  rw [scene_of_room? found]

/-- A room looks the same if it is the same and its players do. -/
theorem scene_congr (same : next.lobby.room? number = server.lobby.room? number)
    (guests : ∀ player, server.lobby.Seats number player →
      next.guest? told' player = server.guest? told player) :
    next.scene told' number = server.scene told number := by
  rw [scene, scene, same]
  cases found : server.lobby.room? number with
  | none => rfl
  | some room =>
    have alike : room.players.filterMap (next.guest? told') =
        room.players.filterMap (server.guest? told) :=
      List.filterMap_congr fun player member => guests player ⟨room, found, member⟩
    simp only [alike]

theorem mem_guests {guest : Guest} (found : server.lobby.room? number = some room) :
    guest ∈ (server.scene told number).guests ↔
      guest.player ∈ room.players ∧ server.guest? told guest.player = some guest := by
  rw [scene_of_room? found, List.mem_filterMap]
  constructor
  · rintro ⟨player, member, seen⟩
    rw [(guest?_eq_some seen).1]
    exact ⟨member, seen⟩
  · rintro ⟨member, seen⟩
    exact ⟨guest.player, member, seen⟩

/-- Nobody has the nickname of another guest. -/
theorem distinct_scene (indexed : server.sessions.Indexed) (told : ConnectionId → Bool)
    (number : RoomId) : (server.scene told number).Distinct := by
  cases found : server.lobby.room? number with
  | none =>
    have nobody : (server.scene told number).guests = [] := by rw [scene, found]
    refine ⟨?_, ?_⟩ <;> simp [nobody]
  | some room =>
    have unique : ∀ {guest other}, guest ∈ (server.scene told number).guests →
        other ∈ (server.scene told number).guests → guest.player = other.player →
        guest = other := by
      intro guest other member member' same
      have seen := ((mem_guests found).1 member).2
      have seen' := ((mem_guests found).1 member').2
      rw [← same, seen] at seen'
      exact Option.some.inj seen'
    refine ⟨?_, unique⟩
    intro guest other member member' same
    apply unique member member'
    rcases guest?_eq_some ((mem_guests found).1 member).2 with ⟨_, named, id, leads, _⟩
    rcases guest?_eq_some ((mem_guests found).1 member').2 with ⟨_, named', id', leads', _⟩
    exact eq_of_nicknameOf? indexed (same ▸ named) named' leads leads'

/-- A sound room whose players all have connections. -/
structure Hosts (server : Server) (number : RoomId) (room : Room) : Prop where
  found : server.lobby.room? number = some room
  sound : room.Sound
  led : ∀ player ∈ room.players, ∃ id, server.sessions.findPlayer? player = some id

theorem Linked.hosts (linked : server.Linked) (found : server.lobby.room? number = some room) :
    server.Hosts number room := by
  refine ⟨found, linked.orderly.sound found, ?_⟩
  intro player member
  rcases linked.carried ⟨room, found, member⟩ with ⟨id, session, live, carries⟩
  exact ⟨id, (linked.indexed.byPlayer player id).2 ⟨session, live, carries⟩⟩

section Hosts

variable (indexed : server.sessions.Indexed) (hosts : server.Hosts number room)

include indexed hosts

/-- Every player of a room is a guest. -/
theorem exists_guest (told : ConnectionId → Bool) (member : player ∈ room.players) :
    ∃ guest ∈ (server.scene told number).guests, guest.player = player ∧
      server.guest? told player = some guest := by
  rcases hosts.led player member with ⟨id, leads⟩
  rcases exists_nickname indexed leads with ⟨session, nickname, _, _, named⟩
  have seen := guest?_eq leads named told
  exact ⟨_, (mem_guests hosts.found).2 ⟨member, seen⟩, rfl, seen⟩

theorem find?_guests (told : ConnectionId → Bool) (member : player ∈ room.players) :
    (server.scene told number).guests.find? (fun guest => guest.player = player) =
      server.guest? told player := by
  rcases exists_guest indexed hosts told member with ⟨guest, seen, same, known⟩
  rw [known]
  cases located : (server.scene told number).guests.find? fun guest => guest.player = player with
  | none =>
    have absent := List.find?_eq_none.1 located guest seen
    simp [same] at absent
  | some other =>
    have owner : other.player = player := by simpa using List.find?_some located
    have seen' := ((mem_guests hosts.found).1 (List.mem_of_find?_eq_some located)).2
    rw [owner, known] at seen'
    exact seen'.symm

/-- What is said about the turn is what the scene shows. -/
theorem turnView?_eq (told : ConnectionId → Bool) :
    server.turnView? number = (server.scene told number).turn? := by
  have on := @game_scene _ told _ _ hosts.found
  have own : server.game? number = room.stage.game? := by
    simp [game?, hosts.found, Room.game?]
  rw [turnView?, Scene.turn?, own, on]
  cases stage : room.stage with
  | waiting => rfl
  | finished game =>
    have ended := (hosts.sound.of_finished stage).1
    simp [Stage.game?, Stage.on?, Game.currentPlayer?, ended]
  | playing game =>
    have seated := (hosts.sound.of_playing stage).1
    cases current : game.currentPlayer? with
    | none => simp [Stage.game?, Stage.on?, current]
    | some player =>
      have member : player ∈ room.players := by
        rw [← seated]
        exact Game.mem_players_of_currentPlayer? current
      have seen := find?_guests indexed hosts told member
      rcases hosts.led player member with ⟨id, leads⟩
      rcases exists_nickname indexed leads with ⟨_, nickname, _, _, named⟩
      rw [guest?_eq leads named told] at seen
      simp [Stage.game?, Stage.on?, current, seen, named]

/-- While a game is on, it is somebody's turn. -/
theorem exists_turn (told : ConnectionId → Bool) {game : Game} (playing : room.stage = .playing game) :
    ∃ turn, (server.scene told number).turn? = some turn := by
  rcases hosts.sound.of_playing playing with ⟨seated, on, ready⟩
  cases phase : game.phase with
  | finished => exact (on phase).elim
  | active place pending =>
    rcases Game.currentPlayer?_of_ready ready phase with ⟨head, someone, _⟩
    rcases Option.isSome_iff_exists.1 someone with ⟨player, first⟩
    have current : game.currentPlayer? = some player := head.trans first
    have member : player ∈ room.players := by
      rw [← seated]
      exact Game.mem_players_of_currentPlayer? current
    have seen := find?_guests indexed hosts told member
    rcases exists_guest indexed hosts told member with ⟨guest, _, _, known⟩
    have on := @game_scene _ told _ _ hosts.found
    refine ⟨{ nickname := guest.nickname, top := game.top }, ?_⟩
    simp [Scene.turn?, on, playing, Stage.on?, current, seen, known]

omit indexed in
/-- The turn that a scene shows is that of the game. -/
theorem currentPlayer?_of_turn? {game : Game} (playing : room.stage = .playing game)
    {turn : TurnView} (shown : (server.scene told number).turn? = some turn) :
    ∃ current, game.currentPlayer? = some current ∧
      server.nicknameOf? current = some turn.nickname ∧ turn.top = game.top := by
  rw [Scene.turn?, game_scene hosts.found, playing] at shown
  rcases Option.bind_eq_some_iff.1 shown with ⟨_, same, rest⟩
  cases same
  rcases Option.bind_eq_some_iff.1 rest with ⟨current, next, rest'⟩
  rcases Option.bind_eq_some_iff.1 rest' with ⟨guest, located, same⟩
  cases same
  have owner : guest.player = current := by simpa using List.find?_some located
  have seen := ((mem_guests hosts.found).1 (List.mem_of_find?_eq_some located)).2
  rw [owner] at seen
  exact ⟨current, next, (guest?_eq_some seen).2.1, rfl⟩

/-- Once everybody has been told of everybody, a picture of a room shows its scene. -/
theorem occupants_of_roomView?
    (known : ∀ {id session}, server.sessions.get? id = some session → told id = session.isAwake)
    {view : RoomView} (seen : server.roomView? number = some view) :
    view.occupants = (server.scene told number).guests.map Guest.occupant := by
  rw [roomView?, hosts.found, Option.map_some, Option.some_inj] at seen
  rw [← seen, scene_of_room? hosts.found, List.map_filterMap]
  apply List.filterMap_congr
  intro player member
  rcases hosts.led player member with ⟨id, leads⟩
  rcases exists_nickname indexed leads with ⟨session, nickname, live, carries, named⟩
  rw [guest?_eq leads named told, known live]
  simp [occupant?, carrier?, leads, live, Session.nickname?, carries, Guest.occupant]

end Hosts

/-! ## Who hears what -/

/-- A connection carries a player who sits in a room. -/
structure Sits (server : Server) (id : ConnectionId) (player : PlayerId) (number : RoomId) :
    Prop where
  leads : server.sessions.findPlayer? player = some id
  seats : server.lobby.Seats number player

/-- Whoever sits in a room is seen there. -/
theorem Sits.exists_guest (sits : server.Sits id player number) (linked : server.Linked)
    (told : ConnectionId → Bool) {nickname : String}
    (named : server.nicknameOf? player = some nickname) :
    ∃ guest ∈ (server.scene told number).guests, guest.player = player ∧
      guest.nickname = nickname := by
  rcases sits.seats with ⟨room, found, member⟩
  rcases Server.exists_guest linked.indexed (linked.hosts found) told member with
    ⟨guest, seen, same, known⟩
  exact ⟨guest, seen, same, Option.some.inj ((guest?_eq_some known).2.1.symm.trans named)⟩

theorem wordsTo_mailTo_of_absent {players : List PlayerId}
    (absent : ∀ player ∈ players, server.sessions.findPlayer? player ≠ some id)
    (notice : PlayerId → Notice) : wordsTo (server.mailTo players notice) id = [] := by
  induction players with
  | nil => rfl
  | cons first players ih =>
    rw [List.forall_mem_cons] at absent
    rw [mailTo, List.filterMap_cons]
    cases leads : server.sessions.findPlayer? first with
    | none => exact ih absent.2
    | some connection =>
      have other : connection ≠ id := by
        rintro rfl
        exact absent.1 leads
      simp only [Option.map_some, wordsTo_cons, if_neg other]
      exact ih absent.2

/-- Whoever is told something hears it once. -/
theorem wordsTo_mailTo (indexed : server.sessions.Indexed) {players : List PlayerId}
    (distinct : players.Nodup) (leads : server.sessions.findPlayer? player = some id)
    (member : player ∈ players) (notice : PlayerId → Notice) :
    wordsTo (server.mailTo players notice) id = [.said (notice player)] := by
  rcases List.append_of_mem member with ⟨before, after, rfl⟩
  have apart : ∀ other ∈ before ++ after, server.sessions.findPlayer? other ≠ some id := by
    intro other elsewhere leads'
    cases indexed.eq_of_findPlayer? leads leads'
    exact (List.nodup_middle.1 distinct).notMem elsewhere
  have whole : server.mailTo (before ++ player :: after) notice =
      server.mailTo before notice ++ { connection := id, notice := notice player } ::
        server.mailTo after notice := by
    simp [mailTo, leads]
  rw [List.forall_mem_append] at apart
  rw [whole, wordsTo_append, wordsTo_cons, if_pos rfl, wordsTo_mailTo_of_absent apart.1,
    wordsTo_mailTo_of_absent apart.2]
  rfl

/-- Whoever does not sit in a room hears nothing of what is said there. -/
theorem wordsTo_roomMail_of_absent (absent : ∀ player, ¬server.Sits id player number)
    (notice : Notice) (except : Option PlayerId) :
    wordsTo (server.roomMail number notice except) id = [] := by
  apply wordsTo_mailTo_of_absent
  intro player member leads
  rw [audience] at member
  split at member
  · next room found =>
    exact absent player ⟨leads, room, found, (List.mem_filter.1 member).1⟩
  · cases member

theorem wordsTo_roomMail (indexed : server.sessions.Indexed) (hosts : server.Hosts number room)
    (leads : server.sessions.findPlayer? player = some id) (member : player ∈ room.players)
    (notice : Notice) (except : Option PlayerId) :
    wordsTo (server.roomMail number notice except) id =
      if except = some player then [] else [.said notice] := by
  have listeners : server.audience number except =
      room.players.filter fun player => except ≠ some player := by
    rw [audience, hosts.found]
  rw [roomMail, listeners]
  split
  · next excepted =>
    apply wordsTo_mailTo_of_absent
    intro other member' leads'
    have heard := (List.mem_filter.1 member').2
    rw [indexed.eq_of_findPlayer? leads' leads] at heard
    simp [excepted] at heard
  · next heard =>
    refine wordsTo_mailTo indexed (hosts.sound.distinct.filter _) leads ?_ fun _ => notice
    exact List.mem_filter.2 ⟨member, by simpa using heard⟩

end Server

end CardTable
