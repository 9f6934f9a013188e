import CardTable.Proofs.Server.Affairs

/-!
# Games that start and end

A step of a server starts a game in a room just when it takes the last seat there, and ends one just
when it leaves a single player with cards. What is heard in the room then, and what is heard of a
game as long as it goes on, follows from what happens in the step.
-/

namespace CardTable

/-- A room that waits has a free seat, and a game in a room ranks its players. -/
structure Room.Regular (room : Room) : Prop where
  free : room.stage = .waiting → ¬room.IsFull
  ranked : ∀ game, room.game? = some game → game.Ranked

theorem Room.regular_of_ranked {room : Room} {game : Game} (on : room.game? = some game)
    (ranked : game.Ranked) : room.Regular := by
  refine ⟨?_, ?_⟩
  · intro waiting
    rw [Room.game?, waiting] at on
    cases on
  · intro other on'
    cases on.symm.trans on'
    exact ranked

theorem Room.Regular.of_playing {room : Room} (regular : room.Regular) {game : Game}
    (playing : room.stage = .playing game) : game.Ranked := by
  refine regular.ranked game ?_
  rw [Room.game?, playing]
  rfl

namespace Server

variable {server next : Server} {id : ConnectionId} {player : PlayerId} {number : RoomId}

/-- Every room of a server is regular. -/
def Regular (server : Server) : Prop :=
  ∀ number room, server.lobby.room? number = some room → room.Regular

/-! ## Starts and ends -/

/-- The state of a room, if there is one with that number. -/
def stateOf? (server : Server) (number : RoomId) : Option RoomState :=
  (server.lobby.room? number).map Room.state

/-- A room that has waited plays. -/
def Opens (server next : Server) (number : RoomId) : Prop :=
  server.stateOf? number = some .waiting ∧ next.stateOf? number = some .playing

/-- A room that has played is finished. -/
def Closes (server next : Server) (number : RoomId) : Prop :=
  server.stateOf? number = some .playing ∧ next.stateOf? number = some .finished

instance (server next : Server) (number : RoomId) : Decidable (server.Opens next number) :=
  inferInstanceAs (Decidable (_ ∧ _))

instance (server next : Server) (number : RoomId) : Decidable (server.Closes next number) :=
  inferInstanceAs (Decidable (_ ∧ _))

/-- The last seat of a room is taken. -/
def Fills (server next : Server) (number : RoomId) : Prop :=
  (∀ room, server.lobby.room? number = some room → ¬room.IsFull) ∧
    ∃ room, next.lobby.room? number = some room ∧ room.IsFull

/-- The number of players who hold cards in a room drops to one. -/
def Dwindles (server next : Server) (number : RoomId) : Prop :=
  ∃ game after, server.game? number = some game ∧ next.game? number = some after ∧
    1 < game.stillPlaying ∧ after.stillPlaying = 1

/-- A player of a room gives away the last card. -/
def EmptiesHand (server next : Server) (number : RoomId) (player : PlayerId) : Prop :=
  ∃ game after, server.game? number = some game ∧ next.game? number = some after ∧
    game.Empties after player

/-- A game has just been dealt. Everybody in the room, after the welcome of the player who has come
last, has heard that it starts, which cards are in the own hand, and that it is the turn of whoever
has the first seat. -/
inductive Dealt (server next : Server) (number : RoomId) : Prop
  | intro {room : Room} {game : Game} {chance : Deal} {first : PlayerId} {nickname : String}
      (here : next.lobby.room? number = some room) (playing : room.stage = .playing game)
      (dealt : Game.deal room.players room.config.handSize chance = .ok game)
      (leads : room.players.head? = some first) (named : next.nicknameOf? first = some nickname)
      (heard : ∀ id me, next.Sits id me number → ∃ welcome hand,
        ((∃ command, welcome = .ok command) ∨ ∃ nickname, welcome = .join nickname) ∧
          game.hand? me = some hand ∧ server.news next id =
            [welcome, .gameStart, .hand hand, .turn { nickname, top := game.top }])

/-- A game has just been ended, by a play or by a departure. One player in the room still holds
cards, who alone has heard the verdict; somebody who has just emptied a hand, if it was a play, has
heard of having won; and then everybody has heard the ranking. It names, once each, those of the
ranking who are still there to be named; all players of the room are among them, and the one who
holds cards comes last. -/
inductive Decided (server next : Server) (number : RoomId) : Prop
  | intro {before room : Room} {game after : Game} {move : Move} {ending : Ending}
      {holder : PlayerId} {names : List String}
      (found : server.lobby.room? number = some before) (playing : before.stage = .playing game)
      (accepted : game.attempt move = .ok after) (how : Ends before ending move room.players)
      (here : next.lobby.room? number = some room) (finished : room.stage = .finished after)
      (holds : room.players.filter after.holdsCards = [holder])
      (forfeit : ending = .forfeit → ∀ me ∈ room.players, ¬game.Empties after me)
      (ranking : names = after.standings.filterMap next.nicknameOf?) (once : names.Nodup)
      (all : ∀ me ∈ room.players, ∃ nickname ∈ names, next.nicknameOf? me = some nickname)
      (last : ∃ nickname, next.nicknameOf? holder = some nickname ∧
        names.getLast? = some nickname)
      (heard : ∀ id me, next.Sits id me number → milestones (server.news next id) =
        (if game.Empties after me then [.win] else []) ++
          (if me = holder then [ending.verdict] else []) ++ [.leaderboard names])

/-- What a step does to the game of a room, and what is heard of it there. -/
structure Conducts (server next : Server) (number : RoomId) : Prop where
  opens_iff : server.Opens next number ↔ server.Fills next number
  closes_iff : server.Closes next number ↔ server.Dwindles next number
  dealt : server.Opens next number → server.Dealt next number
  decided : server.Closes next number → server.Decided next number
  /-- As long as a game goes on, all that is heard is that somebody has emptied a hand. -/
  between : ¬server.Opens next number → ¬server.Closes next number → ∀ id me,
    next.Sits id me number → (server.EmptiesHand next number me →
      milestones (server.news next id) = [.win]) ∧
    (¬server.EmptiesHand next number me → milestones (server.news next id) = [])
  /-- A room stays what it is, opens, or closes; none is given up while it plays. -/
  onward : ∀ room, server.lobby.room? number = some room →
    next.lobby.room? number = none ∧ room.state ≠ .playing ∨
      next.stateOf? number = some room.state ∨ server.Opens next number ∨
      server.Closes next number
  /-- A room that has just been opened waits. -/
  fresh : server.lobby.room? number = none → ∀ room, next.lobby.room? number = some room →
    room.state = .waiting

/-! ## Rooms -/

theorem stateOf?_eq {room : Room} (found : server.lobby.room? number = some room) :
    server.stateOf? number = some room.stage.state := by
  rw [stateOf?, found]
  rfl

theorem game?_eq {room : Room} (found : server.lobby.room? number = some room) :
    server.game? number = room.stage.game? := by
  rw [Server.game?, found]
  rfl

/-- Players who have a nickname are told apart by it. -/
theorem eq_of_named (indexed : server.sessions.Indexed) {other : PlayerId} {nickname : String}
    (named : server.nicknameOf? player = some nickname)
    (named' : server.nicknameOf? other = some nickname) : player = other := by
  have carried {asked : PlayerId} (named : server.nicknameOf? asked = some nickname) :
      ∃ id, server.sessions.findPlayer? asked = some id := by
    rcases Option.bind_eq_some_iff.1 named with ⟨session, carries, _⟩
    rcases Option.bind_eq_some_iff.1 carries with ⟨id, leads, _⟩
    exact ⟨id, leads⟩
  rcases carried named with ⟨id, leads⟩
  rcases carried named' with ⟨id', leads'⟩
  exact eq_of_nicknameOf? indexed named named' leads leads'

/-- When a game ends, its players are those who are left in the room. -/
theorem Ends.players {before : Room} {ending : Ending} {move : Move} {players : List PlayerId}
    {game after : Game} (how : Ends before ending move players)
    (seated : game.players = before.players) (distinct : before.players.Nodup)
    (accepted : game.attempt move = .ok after) :
    after.players = players := by
  cases how with
  | played player card =>
    have acts := @Game.acts_of_attempt _ _ (.play player card) trivial accepted
    exact acts.players.trans seated
  | forfeit player =>
    exact seated ▸ Game.players_of_remove (seated ▸ distinct) accepted

/-- Nobody who stays gives anything away when a game ends by a departure. -/
theorem Ends.not_empties_of_forfeit {before : Room} {ending : Ending} {move : Move}
    {players : List PlayerId} {game after : Game} (how : Ends before ending move players)
    (distinct : before.players.Nodup) (accepted : game.attempt move = .ok after)
    (forfeit : ending = .forfeit) : ∀ me ∈ players, ¬game.Empties after me := by
  cases how with
  | played => cases forfeit
  | forfeit player =>
    intro me member
    have other := (distinct.mem_erase_iff.1 member).1
    have kept := Game.holdsCards_congr (Game.hand?_of_remove accepted other)
    simp [Game.Empties, kept]

/-! ## The rooms stay regular -/

theorem Happening.regular (happening : server.Happening next) (linked : server.Linked)
    (linked' : next.Linked) (regular : server.Regular) : next.Regular := by
  intro number after found'
  have attempt {room : Room} {game later : Game} {move : Move}
      (found : server.lobby.room? number = some room) (playing : room.stage = .playing game)
      (accepted : game.attempt move = .ok later) : later.Ranked := by
    have ready := ((linked.orderly.sound found).of_playing playing).2.2
    exact ((regular number room found).of_playing playing).attempt ready accepted
  rcases happening.still_or_affair linked' number with ⟨same, _⟩ | ⟨_, affair⟩
  · exact regular number after (same ▸ found')
  · cases affair with
    | enters enters =>
      cases enters.here.symm.trans found'
      refine ⟨fun _ => enters.free, ?_⟩
      intro game on
      rw [Room.game?, enters.waiting] at on
      cases on
    | starts starts =>
      have sound' := linked'.orderly.sound starts.here
      cases starts.here.symm.trans found'
      exact Room.regular_of_ranked rfl (Game.ranked_of_deal sound'.distinct starts.dealt).1
    | leaves player leaves =>
      cases leaves.here after found'
      have ordered := regular number _ leaves.found
      refine ⟨?_, ordered.ranked⟩
      intro waiting full
      exact ordered.free waiting (full.trans List.erase_sublist.length_le)
    | moves players moves =>
      cases moves.here.symm.trans found'
      exact Room.regular_of_ranked rfl (attempt moves.found moves.playing moves.accepted)
    | finishes finishes =>
      cases finishes.here.symm.trans found'
      exact Room.regular_of_ranked rfl (attempt finishes.found finishes.playing finishes.accepted)

/-! ## What a step does to a room -/

/-- The game of a room stays what it is when nothing happens there but that somebody leaves. -/
theorem conducts_of_kept
    (kept : ∀ after, next.lobby.room? number = some after → ∃ room,
      server.lobby.room? number = some room ∧ after.config = room.config ∧
        after.stage = room.stage ∧ after.players.length ≤ room.players.length)
    (idle : ∀ room, server.lobby.room? number = some room → next.lobby.room? number = none →
      room.state ≠ .playing)
    (quiet : ∀ id me, next.Sits id me number → milestones (server.news next id) = []) :
    server.Conducts next number := by
  have same {after : Room} (found' : next.lobby.room? number = some after) :
      next.stateOf? number = server.stateOf? number ∧ next.game? number = server.game? number := by
    rcases kept after found' with ⟨room, found, _, stage, _⟩
    rw [stateOf?_eq found', stateOf?_eq found, game?_eq found', game?_eq found, stage]
    exact ⟨rfl, rfl⟩
  have opens : ¬server.Opens next number := by
    rintro ⟨waited, plays⟩
    rcases Option.map_eq_some_iff.1 plays with ⟨after, found', _⟩
    rw [(same found').1, waited] at plays
    cases plays
  have closes : ¬server.Closes next number := by
    rintro ⟨played, finished⟩
    rcases Option.map_eq_some_iff.1 finished with ⟨after, found', _⟩
    rw [(same found').1, played] at finished
    cases finished
  refine ⟨iff_of_false opens ?_, iff_of_false closes ?_, (absurd · opens), (absurd · closes), ?_,
    ?_, ?_⟩
  · rintro ⟨free, after, found', full⟩
    rcases kept after found' with ⟨room, found, config, _, fewer⟩
    rw [Room.IsFull, config] at full
    exact free room found (full.trans fewer)
  · rintro ⟨game, after, on, on', many, one⟩
    rcases Option.bind_eq_some_iff.1 on' with ⟨_, found', _⟩
    rw [(same found').2, on] at on'
    cases on'
    omega
  · intro _ _ id me sits
    rcases sits.seats with ⟨after, found', _⟩
    refine ⟨?_, fun _ => quiet id me sits⟩
    rintro ⟨game, _, on, on', held, empty⟩
    rw [(same found').2, on] at on'
    cases on'
    rw [held] at empty
    cases empty
  · intro room found
    cases found' : next.lobby.room? number with
    | none => exact .inl ⟨rfl, idle room found found'⟩
    | some after =>
      rw [(same found').1, stateOf?_eq found]
      exact .inr (.inl rfl)
  · intro missing after found'
    rcases kept after found' with ⟨room, found, _⟩
    rw [missing] at found
    cases found

theorem Enters.conducts {after : Room} (enters : server.Enters next number after) :
    server.Conducts next number := by
  have waits : next.stateOf? number = some .waiting := by
    rw [stateOf?_eq enters.here, enters.waiting]
    rfl
  have gameless : next.game? number = none := by
    rw [game?_eq enters.here, enters.waiting]
    rfl
  have opens : ¬server.Opens next number := fun opens => by cases waits.symm.trans opens.2
  have closes : ¬server.Closes next number := fun closes => by cases waits.symm.trans closes.2
  refine ⟨iff_of_false opens ?_, iff_of_false closes ?_, (absurd · opens), (absurd · closes), ?_,
    ?_, ?_⟩
  · rintro ⟨_, room, found, full⟩
    cases enters.here.symm.trans found
    exact enters.free full
  · rintro ⟨_, _, _, on, _⟩
    cases gameless.symm.trans on
  · intro _ _ id me _
    refine ⟨?_, fun _ => enters.plain id⟩
    rintro ⟨_, _, _, on, _⟩
    cases gameless.symm.trans on
  · intro room found
    have waited : room.state = .waiting := congrArg Stage.state (enters.before room found).1
    exact .inr (.inl (waited ▸ waits))
  · intro _ room found
    cases enters.here.symm.trans found
    exact congrArg Stage.state enters.waiting

theorem Moves.conducts {room : Room} {players : List PlayerId} {game after : Game} {move : Move}
    (moves : server.Moves next number room players game after move) (linked : server.Linked)
    (linked' : next.Linked) : server.Conducts next number := by
  rcases moves with ⟨found, playing, accepted, here, heard⟩
  have sound := linked.orderly.sound found
  have sound' := linked'.orderly.sound here
  rcases sound.of_playing playing with ⟨seated, _, _⟩
  rcases sound'.of_playing rfl with ⟨seated', on, ready⟩
  have plays : server.stateOf? number = some .playing := by
    rw [stateOf?_eq found, playing]
    rfl
  have plays' : next.stateOf? number = some .playing := stateOf?_eq here
  have game_before : server.game? number = some game := by
    rw [game?_eq found, playing]
    rfl
  have game_after : next.game? number = some after := game?_eq here
  have opens : ¬server.Opens next number := fun opens => by cases plays.symm.trans opens.1
  have closes : ¬server.Closes next number := fun closes => by cases plays'.symm.trans closes.2
  refine ⟨iff_of_false opens ?_, iff_of_false closes ?_, (absurd · opens), (absurd · closes), ?_,
    ?_, ?_⟩
  · rintro ⟨free, _, found', full⟩
    cases here.symm.trans found'
    have fewer := Game.sublist_players_of_attempt (seated ▸ sound.distinct) accepted
    rw [seated, seated'] at fewer
    exact free room found (full.trans fewer.length_le)
  · rintro ⟨_, _, _, on', _, one⟩
    cases game_after.symm.trans on'
    have two := Game.two_le_stillPlaying ready on
    omega
  · intro _ _ id me sits
    have told := heard sits
    refine ⟨?_, ?_⟩
    · rintro ⟨_, _, on, on', empties⟩
      cases game_before.symm.trans on
      cases game_after.symm.trans on'
      rw [told, if_pos empties]
    · intro none
      rw [told, if_neg fun empties => none ⟨game, after, game_before, game_after, empties⟩]
  · intro _ found'
    rw [stateOf?_eq found', Option.some_inj] at plays
    exact .inr (.inl (plays'.trans (congrArg some plays.symm)))
  · intro missing
    rw [missing] at found
    cases found

theorem Starts.conducts {room : Room} {player : PlayerId} {game : Game} {chance : Deal}
    (starts : server.Starts next number room player game chance) (linked : next.Linked) :
    server.Conducts next number := by
  rcases starts with ⟨found, waiting, free, full, here, dealt, heard⟩
  have waited : server.stateOf? number = some .waiting := by
    rw [stateOf?_eq found, waiting]
    rfl
  have opens : server.Opens next number := ⟨waited, stateOf?_eq here⟩
  have closes : ¬server.Closes next number := fun closes => by cases waited.symm.trans closes.1
  refine ⟨iff_of_true opens ?_, iff_of_false closes ?_, ?_, (absurd · closes), (absurd opens ·), ?_,
    ?_⟩
  · refine ⟨?_, _, here, full⟩
    intro _ found'
    cases found.symm.trans found'
    exact free
  · rintro ⟨_, _, on, _⟩
    rw [game?_eq found, waiting] at on
    cases on
  · intro _
    rcases turnView?_of_deal linked.indexed (linked.hosts here) rfl dealt with
      ⟨first, nickname, leads, named, view⟩
    refine .intro here rfl dealt leads named ?_
    intro id me sits
    rcases heard sits with ⟨welcome, hand, turn, welcomes, own, view', lines⟩
    cases view.symm.trans view'
    exact ⟨welcome, hand, welcomes, own, lines⟩
  · exact fun _ _ => .inr (.inr (.inl opens))
  · intro missing
    rw [missing] at found
    cases found

theorem Leaves.conducts {room : Room} {player : PlayerId}
    (leaves : server.Leaves next number room player) : server.Conducts next number := by
  refine conducts_of_kept ?_ ?_ fun id _ _ => leaves.plain id
  · intro after found'
    cases leaves.here after found'
    exact ⟨room, leaves.found, rfl, rfl, List.erase_sublist.length_le⟩
  · intro _ found' _ playing
    cases leaves.found.symm.trans found'
    rw [Room.state] at playing
    cases stage : room.stage with
    | waiting | finished => simp [stage, Stage.state] at playing
    | playing game => exact leaves.idle game stage

/-- Nobody who is ranked when a game ends has left in the step that ends it. -/
theorem names_of_ends {before : Room} {ending : Ending} {move : Move} {players : List PlayerId}
    {game after : Game} (how : Ends before ending move players) (ranked : game.Ranked)
    (accepted : game.attempt move = .ok after) (two : 2 ≤ game.stillPlaying)
    (one : after.stillPlaying = 1)
    (named : ∀ player, move ≠ .remove player →
      next.nicknameOf? player = server.nicknameOf? player) :
    after.standings.filterMap server.nicknameOf? = after.standings.filterMap next.nicknameOf? := by
  apply List.filterMap_congr
  intro player member
  refine (named player ?_).symm
  rintro rfl
  exact ranked.notMem_standings_of_remove accepted two one member

section Finishes

variable {room : Room} {players : List PlayerId} {game after : Game} {move : Move} {ending : Ending}
  (finishes : server.Finishes next number room players game after move ending)
  (linked : server.Linked) (linked' : next.Linked)

include finishes linked

theorem Finishes.stillPlaying : 1 < game.stillPlaying ∧ after.stillPlaying = 1 := by
  rcases (linked.orderly.sound finishes.found).of_playing finishes.playing with ⟨_, on, ready⟩
  exact ⟨Game.two_le_stillPlaying ready on,
    (Game.finished_iff_of_attempt ready on finishes.accepted).1 finishes.ended⟩

theorem Finishes.players_eq : after.players = players := by
  have sound := linked.orderly.sound finishes.found
  exact finishes.how.players (sound.of_playing finishes.playing).1 sound.distinct finishes.accepted

include linked'

theorem Finishes.decided (regular : room.Regular) : server.Decided next number := by
  have stay := finishes.players_eq linked
  rcases finishes.stillPlaying linked with ⟨two, one⟩
  rcases finishes with ⟨found, playing, accepted, how, here, ended, named, heard⟩
  have hosts := linked'.hosts here
  have ready := ((linked.orderly.sound found).of_playing playing).2.2
  have ranked := regular.of_playing playing
  have ranked' := ranked.attempt ready accepted
  rcases ranked'.exists_holder one with ⟨holder, only, standings⟩
  have holds_iff {me : PlayerId} (member : me ∈ players) :
      after.holdsCards me = true ↔ me = holder := by
    have among := @List.mem_filter _ after.holdsCards after.players me
    rw [only, List.mem_singleton, stay] at among
    simp [among, member]
  have holder_stays : holder ∈ players := by
    have among : holder ∈ after.players.filter after.holdsCards := by simp [only]
    exact stay ▸ (List.mem_filter.1 among).1
  have known {me : PlayerId} (member : me ∈ players) :
      ∃ nickname, next.nicknameOf? me = some nickname := by
    rcases hosts.led me member with ⟨id, leads⟩
    rcases exists_nickname linked'.indexed leads with ⟨_, nickname, _, _, named⟩
    exact ⟨nickname, named⟩
  have distinct := (linked.orderly.sound found).distinct
  refine .intro found playing accepted how here rfl (stay ▸ only)
    (how.not_empties_of_forfeit distinct accepted) rfl ?_ ?_ ?_ ?_
  · refine List.Nodup.filterMap ?_ ranked'.nodup_standings
    intro player other nickname named named'
    exact eq_of_named linked'.indexed named named'
  · intro me member
    rcases known member with ⟨nickname, named⟩
    have placed := ranked'.mem_standings (stay ▸ member)
    exact ⟨nickname, List.mem_filterMap.2 ⟨me, placed, named⟩, named⟩
  · rcases known holder_stays with ⟨nickname, named⟩
    refine ⟨nickname, named, ?_⟩
    rw [standings, List.filterMap_append, List.filterMap_cons_some named]
    simp
  · intro id me sits
    have member : me ∈ players := (Lobby.seats_iff here).1 sits.seats
    rw [heard sits, names_of_ends how ranked accepted two one named]
    simp only [holds_iff member]

theorem Finishes.conducts (regular : room.Regular) : server.Conducts next number := by
  have decided := finishes.decided linked linked' regular
  have stay := finishes.players_eq linked
  rcases finishes.stillPlaying linked with ⟨two, one⟩
  rcases finishes with ⟨found, playing, accepted, how, here, ended, named, heard⟩
  have sound := linked.orderly.sound found
  have seated := (sound.of_playing playing).1
  have played : server.stateOf? number = some .playing := by
    rw [stateOf?_eq found, playing]
    rfl
  have closes : server.Closes next number := ⟨played, stateOf?_eq here⟩
  have opens : ¬server.Opens next number := fun opens => by cases played.symm.trans opens.1
  refine ⟨iff_of_false opens ?_, iff_of_true closes ?_, (absurd · opens), fun _ => decided,
    fun _ open_still => (open_still closes).elim, ?_, ?_⟩
  · rintro ⟨free, _, found', full⟩
    cases here.symm.trans found'
    have fewer := Game.sublist_players_of_attempt (seated ▸ sound.distinct) accepted
    rw [seated, stay] at fewer
    exact free room found (full.trans fewer.length_le)
  · refine ⟨game, after, ?_, game?_eq here, two, one⟩
    rw [game?_eq found, playing]
    rfl
  · exact fun _ _ => .inr (.inr (.inr closes))
  · intro missing
    rw [missing] at found
    cases found

end Finishes

/-- What happens in a step tells of every room what becomes of its game. -/
theorem Happening.conducts (happening : server.Happening next) (linked : server.Linked)
    (linked' : next.Linked) (regular : server.Regular) (number : RoomId) :
    server.Conducts next number := by
  rcases happening.still_or_affair linked' number with ⟨same, quiet⟩ | ⟨_, affair⟩
  · refine conducts_of_kept ?_ ?_ quiet
    · exact fun after found' => ⟨after, same ▸ found', rfl, rfl, le_rfl⟩
    · intro room found missing
      rw [same, found] at missing
      cases missing
  · cases affair with
    | enters enters => exact enters.conducts
    | starts starts => exact starts.conducts linked'
    | leaves player leaves => exact leaves.conducts
    | moves players moves => exact moves.conducts linked linked'
    | finishes finishes =>
      exact finishes.conducts linked linked' (regular number _ finishes.found)

end Server

end CardTable
