import CardTable.Proofs.Game.Ranking
import CardTable.Proofs.Server.Books
import CardTable.Proofs.Server.Milestones

/-!
# What happens in a step

A step changes one room at most: somebody takes a seat there, or the last one, so that the game
starts; somebody leaves; a game goes on; or a game ends. Nobody hears a milestone but the players of
that room. This file says for each of these changes which milestones they hear, and that every step
comes down to one of them or to none.
-/

namespace CardTable.Server

variable {server middle next : Server} {id : ConnectionId} {player : PlayerId}
  {identity : Identity} {number : RoomId} {room rest : Room}

/-! ## What happens in a room -/

/-- How a game is ended, and who is left in the room then. -/
inductive Ends (before : Room) : Ending → Move → List PlayerId → Prop
  | played (player : PlayerId) (card : Card) :
      Ends before .played (.play player card) before.players
  | forfeit (player : PlayerId) :
      Ends before .forfeit (.remove player) (before.players.erase player)

/-- A seat is taken in a room, which may just have been opened, and others are still free. -/
structure Enters (server next : Server) (number : RoomId) (after : Room) : Prop where
  before : ∀ room, server.lobby.room? number = some room → room.stage = .waiting ∧ ¬room.IsFull
  here : next.lobby.room? number = some after
  waiting : after.stage = .waiting
  free : ¬after.IsFull
  plain : ∀ id, milestones (server.news next id) = []

/-- The last seat of a room is taken, and the game is dealt. -/
structure Starts (server next : Server) (number : RoomId) (room : Room) (player : PlayerId)
    (game : Game) (chance : Deal) : Prop where
  found : server.lobby.room? number = some room
  waiting : room.stage = .waiting
  free : ¬room.IsFull
  full : room.config.capacity ≤ (room.players ++ [player]).length
  here : next.lobby.room? number =
    some { room with players := room.players ++ [player], stage := .playing game }
  dealt : Game.deal (room.players ++ [player]) room.config.handSize chance = .ok game
  heard : ∀ {id me}, next.Sits id me number → ∃ welcome hand turn,
    ((∃ command, welcome = .ok command) ∨ ∃ nickname, welcome = .join nickname) ∧
      game.hand? me = some hand ∧ next.turnView? number = some turn ∧
      server.news next id = [welcome, .gameStart, .hand hand, .turn turn]

/-- Somebody leaves a room without a game that is on. -/
structure Leaves (server next : Server) (number : RoomId) (room : Room) (player : PlayerId) :
    Prop where
  found : server.lobby.room? number = some room
  idle : ∀ game, room.stage ≠ .playing game
  here : ∀ after, next.lobby.room? number = some after →
    after = { room with players := room.players.erase player }
  plain : ∀ id, milestones (server.news next id) = []

/-- A move is made in a game, or somebody leaves it, and it goes on. -/
structure Moves (server next : Server) (number : RoomId) (room : Room) (players : List PlayerId)
    (game after : Game) (move : Move) : Prop where
  found : server.lobby.room? number = some room
  playing : room.stage = .playing game
  accepted : game.attempt move = .ok after
  here : next.lobby.room? number = some { room with players, stage := .playing after }
  heard : ∀ {id me}, next.Sits id me number → milestones (server.news next id) =
    if game.Empties after me then [.win] else []

/-- A game is over. -/
structure Finishes (server next : Server) (number : RoomId) (room : Room) (players : List PlayerId)
    (game after : Game) (move : Move) (ending : Ending) : Prop where
  found : server.lobby.room? number = some room
  playing : room.stage = .playing game
  accepted : game.attempt move = .ok after
  how : Ends room ending move players
  here : next.lobby.room? number = some { room with players, stage := .finished after }
  ended : after.phase = .finished
  named : ∀ player, move ≠ .remove player → next.nicknameOf? player = server.nicknameOf? player
  heard : ∀ {id me}, next.Sits id me number → milestones (server.news next id) =
    (if game.Empties after me then [.win] else []) ++
      (if after.holdsCards me then [ending.verdict] else []) ++
      [.leaderboard (after.standings.filterMap server.nicknameOf?)]

/-- What happens in a room in a step. -/
inductive Affair (server next : Server) (number : RoomId) : Prop
  | enters {after : Room} (enters : server.Enters next number after)
  | starts {room : Room} {player : PlayerId} {game : Game} {chance : Deal}
      (starts : server.Starts next number room player game chance)
  | leaves {room : Room} (player : PlayerId) (leaves : server.Leaves next number room player)
  | moves {room : Room} (players : List PlayerId) {game after : Game} {move : Move}
      (moves : server.Moves next number room players game after move)
  | finishes {room : Room} {players : List PlayerId} {game after : Game} {move : Move}
      {ending : Ending} (finishes : server.Finishes next number room players game after move ending)

/-- What happens in the rooms in a step: nothing, or something in one room, of which nobody hears
elsewhere. -/
inductive Happening (server next : Server) : Prop
  | nothing (rooms : ∀ asked, next.lobby.room? asked = server.lobby.room? asked)
      (plain : ∀ id, milestones (server.news next id) = [])
  | affair (number : RoomId)
      (elsewhere : ∀ asked, asked ≠ number → next.lobby.room? asked = server.lobby.room? asked)
      (outside : ∀ id, (∀ player, ¬next.Sits id player number) →
        milestones (server.news next id) = [])
      (affair : Affair server next number)

/-- Seen from one room, nothing happens there and nobody there hears a milestone, or it is the room
in which something happens. -/
theorem Happening.still_or_affair (happening : server.Happening next) (linked : next.Linked)
    (number : RoomId) :
    (next.lobby.room? number = server.lobby.room? number ∧
      ∀ id me, next.Sits id me number → milestones (server.news next id) = []) ∨
    (∀ asked, asked ≠ number → next.lobby.room? asked = server.lobby.room? asked) ∧
      Affair server next number := by
  cases happening with
  | nothing rooms plain => exact .inl ⟨rooms number, fun id _ _ => plain id⟩
  | affair changed elsewhere outside affair =>
    by_cases same : number = changed
    · subst same
      exact .inr ⟨elsewhere, affair⟩
    · refine .inl ⟨elsewhere number same, ?_⟩
      intro id me sits
      refine outside id ?_
      intro other sits'
      rw [linked.indexed.eq_of_findPlayer? sits'.leads sits.leads] at sits'
      exact same (linked.alone sits.seats sits'.seats)

/-- Whoever has no seat hears no milestone. -/
theorem Happening.unheard (happening : server.Happening next)
    (unseated : ∀ player number, ¬next.Sits id player number) :
    milestones (server.news next id) = [] := by
  cases happening with
  | nothing rooms plain => exact plain id
  | affair changed elsewhere outside affair =>
    exact outside id fun player => unseated player changed

theorem happening_of_plain {mail : List Delivery} (lobby : next.lobby = server.lobby)
    (said : next.said = mail.reverse ++ server.said) (plain : Plain mail) :
    server.Happening next := by
  refine .nothing (fun asked => by rw [lobby]) fun id => ?_
  rw [news_of_said said]
  exact plain.milestonesIn id

/-! ## Seats that are taken -/

/-- A game that has just been dealt begins with the first seat. -/
theorem turnView?_of_deal {game : Game} {wanted : Nat} {chance : Deal}
    (indexed : server.sessions.Indexed) (hosts : server.Hosts number room)
    (playing : room.stage = .playing game)
    (dealt : Game.deal room.players wanted chance = .ok game) :
    ∃ first nickname, room.players.head? = some first ∧
      server.nicknameOf? first = some nickname ∧
      server.turnView? number = some { nickname, top := game.top } := by
  have two := (Game.length_of_deal dealt).1
  rcases Game.opening_of_deal dealt with ⟨seated, phase, -⟩
  cases players : room.players with
  | nil => simp [players] at two
  | cons first others =>
    have current : game.currentPlayer? = some first := by
      rw [Game.currentPlayer?, phase]
      simp only [← List.getElem?_map]
      change game.players[0]? = some first
      simp [seated, players]
    rcases hosts.led first (by simp [players]) with ⟨id, leads⟩
    rcases exists_nickname indexed leads with ⟨_, nickname, _, _, named⟩
    refine ⟨first, nickname, rfl, named, ?_⟩
    simp [turnView?, game?, hosts.found, Room.game?, playing, Stage.game?, current, named]

/-- Somebody who takes a seat hears that it is granted, and the others hear who has come. -/
theorem exists_welcome {me : PlayerId} {asked : ConnectionId} (command : Command)
    (indexed : server.sessions.Indexed) (hosts : server.Hosts number room)
    (leads : server.sessions.findPlayer? identity.player = some id)
    (leads' : server.sessions.findPlayer? me = some asked) (member : me ∈ room.players) :
    ∃ welcome, ((∃ command, welcome = .ok command) ∨ ∃ nickname, welcome = .join nickname) ∧
      wordsTo ({ connection := id, notice := .ok command } ::
        server.roomMail number (.join identity.nickname) (some identity.player)) asked =
          [.said welcome] := by
  have come := wordsTo_roomMail indexed hosts leads' member (.join identity.nickname)
    (some identity.player)
  rw [wordsTo_cons, come]
  by_cases new : me = identity.player
  · have own : id = asked := by
      rw [new] at leads'
      exact Option.some.inj (leads.symm.trans leads')
    exact ⟨.ok command, .inl ⟨_, rfl⟩, by simp [new, own]⟩
  · have apart : id ≠ asked := by
      rintro rfl
      exact new (indexed.eq_of_findPlayer? leads' leads)
    exact ⟨.join identity.nickname, .inr ⟨_, rfl⟩, by simp [Ne.symm new, apart]⟩

theorem happening_of_seating (linked : server.Linked) (seating : server.Seating id next) :
    server.Happening next := by
  cases seating with
  | @intro identity number lobby room mail command leads named elsewhere here filed alike waiting
      free same before entered enters mail_eq started =>
    have greets : Plain mail := by
      rw [mail_eq]
      exact List.forall_mem_cons.2 ⟨rfl, plain_roomMail_of rfl _ _⟩
    let joined : Room := { room with players := room.players ++ [identity.player] }
    rcases @startIfFull_eq_ok ((server.entered lobby id number).saying mail) number joined here
      filed next started with
      ⟨rfl, unready⟩ | ⟨game, begun, hand, full, _, dealt, hands, rooms, people, _, said, rfl⟩
    · refine .affair number elsewhere (fun id _ => ?_)
        (.enters ⟨?_, here, waiting, ?_, fun id => ?_⟩)
      · rw [news_of_said rfl]
        exact greets.milestonesIn id
      · intro earlier found
        rw [same earlier found]
        exact ⟨waiting, free⟩
      · exact fun full => unready ⟨full, waiting⟩
      · rw [news_of_said rfl]
        exact greets.milestonesIn id
    · rcases (entered.saying mail).startIfFull here with ⟨_, started', linked'⟩
      cases started.symm.trans started'
      have begun_linked : begun.Linked := linked'.of_alike (.refl _) rfl rfl
      have here' : begun.lobby.room? number = some { joined with stage := .playing game } :=
        (rooms number).trans (if_pos rfl)
      have hosts := begun_linked.hosts here'
      have capacity : room.config.capacity ≤ (room.players ++ [identity.player]).length := full
      -- A room has two seats at least, so whoever takes the last one is not alone there.
      have others : room.players ≠ [] := by
        rintro alone
        have two := linked.orderly.two_le_capacity
        rw [← alike] at two
        simp only [alone, List.nil_append, List.length_singleton] at capacity
        omega
      rcases List.exists_mem_of_ne_nil _ others with ⟨other, member⟩
      have whole : (begun.saying (begun.openingMail number joined.players hand)).said =
          (mail ++ begun.openingMail number joined.players hand).reverse ++ server.said := by
        simp only [saying, said, List.reverse_append, List.append_assoc]
        rfl
      refine .affair number ?_ ?_
        (.starts ⟨before other member, waiting, free, capacity, here', dealt, ?_⟩)
      · intro asked apart
        exact (rooms asked).trans ((if_neg apart).trans (elsewhere asked apart))
      · intro asked absent
        have outside : ∀ player, ¬begun.Sits asked player number :=
          fun player sits => absent player ⟨sits.leads, sits.seats⟩
        have silent := @wordsTo_openingMail_of_absent begun _ _ _ hand here' outside
        rw [news_of_said whole]
        change milestonesIn _ asked = []
        rw [milestonesIn_append, greets.milestonesIn, milestonesIn_of_silent silent]
        rfl
      · rintro asked me ⟨leads', seats⟩
        have member' : me ∈ joined.players := (Lobby.seats_iff here').1 seats
        rcases turnView?_of_deal begun_linked.indexed hosts rfl dealt with
          ⟨first, nickname, _, _, view⟩
        rcases exists_welcome command entered.indexed (entered.hosts here) leads
          ((people.findPlayer? me).symm.trans leads') member' with ⟨welcome, welcomes, come⟩
        have opened := @wordsTo_openingMail begun _ _ _ _ hand begun_linked.indexed hosts leads'
          member'
        have turn : wordsTo (begun.turnMail number) asked =
            [.said (.turn { nickname, top := game.top })] := by
          rw [turnMail, view]
          exact wordsTo_roomMail begun_linked.indexed hosts leads' member' _ none
        refine ⟨welcome, hand me, _, welcomes, hands me member', view, ?_⟩
        rw [turn] at opened
        rw [← mail_eq] at come
        rw [news_of_said whole, wordsTo_append, come, opened]
        rfl

/-! ## Departures -/

/-- A game that is on has more players than one. -/
theorem Hosts.two_le {game : Game} (hosts : server.Hosts number room)
    (playing : room.stage = .playing game) : 2 ≤ room.players.length := by
  rcases hosts.sound.of_playing playing with ⟨seated, on, ready⟩
  have two := Game.two_le_stillPlaying ready on
  have holders : game.stillPlaying ≤ game.seats.length := List.length_filter_le _ _
  rw [← seated, Game.players, List.length_map]
  omega

/-- Somebody leaves a game, which is over then. -/
theorem happening_of_forfeit {game after : Game} (linked : server.Linked)
    (found : server.lobby.room? number = some room) (filed : rest.id = number)
    (players : rest.players = room.players.erase player) (sound : rest.Sound)
    (shape : rest = { room with players := room.players.erase player, stage := rest.stage })
    (playing : room.stage = .playing game) (removed : game.remove player = .ok after)
    (finished : rest.stage = .finished after) (lobby : next.lobby = server.lobby.put rest)
    (news : ∀ asked, milestones (server.news next asked) =
      milestonesIn ((server.putRoom rest).closingMail number rest .forfeit) asked)
    (leads : ∀ other, other ≠ player →
      next.sessions.findPlayer? other = server.sessions.findPlayer? other)
    (named : ∀ other, other ≠ player → next.nicknameOf? other = server.nicknameOf? other) :
    server.Happening next := by
  have rooms : ∀ asked, next.lobby.room? asked =
      if asked = number then some rest else server.lobby.room? asked := by
    rw [lobby]
    exact Lobby.room?_put_of_room? found filed
  have here := (rooms number).trans (if_pos rfl)
  have hosts := hosts_left linked found filed players sound
  have accepted : game.attempt (.remove player) = .ok after := removed
  have led {asked : ConnectionId} {me : PlayerId} (sits : next.Sits asked me number) :
      me ≠ player ∧ me ∈ rest.players ∧ server.sessions.findPlayer? me = some asked := by
    have remains := (Lobby.seats_iff here).1 sits.seats
    have member := remains
    rw [players] at member
    have other := ((linked.orderly.sound found).distinct.mem_erase_iff.1 member).1
    exact ⟨other, remains, (leads me other).symm.trans sits.leads⟩
  refine .affair number (fun asked other => (rooms asked).trans (if_neg other)) ?_
    (.finishes ⟨found, playing, accepted, .forfeit player, ?_, (sound.of_finished finished).1, ?_,
      ?_⟩)
  · intro asked absent
    have outside : ∀ other, ¬(server.putRoom rest).Sits asked other number := by
      rintro other ⟨leads', seats⟩
      have member := (Lobby.seats_iff hosts.found).1 seats
      rw [players] at member
      have apart := ((linked.orderly.sound found).distinct.mem_erase_iff.1 member).1
      exact absent other ⟨(leads other apart).trans leads', lobby ▸ seats⟩
    rw [news, milestonesIn_of_silent (wordsTo_closingMail_of_absent hosts.found outside)]
  · rw [here, shape, finished]
  · exact fun other apart => named other fun self => apart (by rw [self])
  · intro asked me sits
    rcases led sits with ⟨other, remains, leads'⟩
    have kept := Game.holdsCards_congr (Game.hand?_of_remove removed other)
    have unchanged : ¬game.Empties after me := by simp [Game.Empties, kept]
    have closing := @milestonesIn_closingMail (server.putRoom rest) _ _ _ _ after .forfeit
      linked.indexed hosts (by rw [Room.game?, finished]; rfl) leads' remains
    rw [news, closing, if_neg unchanged]
    rfl

/-- Who has left loses the connection or keeps it; nobody else does. -/
theorem happening_of_depart {before later : List Delivery} (linked : server.Linked)
    (sits : server.Sits id identity.player number)
    (left : (server.saying before).depart identity number = .ok middle)
    (lobby : next.lobby = middle.lobby) (said : next.said = later.reverse ++ middle.said)
    (plain : Plain before) (plain' : Plain later)
    (leads : ∀ player, player ≠ identity.player →
      next.sessions.findPlayer? player = server.sessions.findPlayer? player)
    (named : ∀ player, player ≠ identity.player →
      next.nicknameOf? player = server.nicknameOf? player) : server.Happening next := by
  rcases sits.seats with ⟨room, found, member⟩
  rcases departs_of_depart (linked.saying before) found member left with
    ⟨rest, filed, config, players, departs⟩
  have hosts := linked.hosts found
  have put := Lobby.room?_put_of_room? found filed
  have here : (server.lobby.put rest).room? number = some rest := (put number).trans (if_pos rfl)
  have same : rest.id = room.id := filed.trans (linked.orderly.filed found).symm
  have shape : rest =
      { room with players := room.players.erase identity.player, stage := rest.stage } := by
    rw [← config, ← same, ← players]
  -- Whatever comes of the departure is said behind the line that tells who has left.
  have leave : Plain (((server.saying before).putRoom rest).roomMail number
      (.leave identity.nickname) none) := plain_roomMail_of rfl _ _
  have news {mail : List Delivery}
      (spoken : middle.said = (((server.saying before).putRoom rest).roomMail number
        (.leave identity.nickname) none ++ mail).reverse ++ (server.saying before).said)
      (asked : ConnectionId) : milestones (server.news next asked) = milestonesIn mail asked := by
    have whole : next.said = ((before ++ ((server.saying before).putRoom rest).roomMail number
        (.leave identity.nickname) none) ++ (mail ++ later)).reverse ++ server.said := by
      rw [said, spoken]
      simp [saying]
    rw [news_of_said whole]
    change milestonesIn _ asked = _
    rw [milestonesIn_append, (plain.append leave).milestonesIn, milestonesIn_append,
      plain'.milestonesIn, List.append_nil]
    rfl
  cases departs with
  | emptied empty =>
    have silent (asked : ConnectionId) : milestones (server.news next asked) = [] :=
      @news [] (by rw [List.append_nil]; rfl) asked
    have gone (asked : RoomId) : next.lobby.room? asked =
        if asked = number then none else (server.lobby.put rest).room? asked := by
      rw [lobby]
      exact Lobby.room?_remove _ _ _
    refine .affair number ?_ (fun asked _ => silent asked)
      (.leaves identity.player ⟨found, ?_, ?_, silent⟩)
    · intro asked other
      rw [gone, if_neg other, put, if_neg other]
    · intro game playing
      have two := hosts.two_le playing
      have one := List.length_erase_of_mem member
      rw [← players, empty] at one
      simp only [List.length_nil] at one
      omega
    · intro after found'
      rw [gone, if_pos rfl] at found'
      cases found'
  | ended sound playing removed finished =>
    exact happening_of_forfeit linked found filed players sound shape playing removed finished lobby
      (news rfl) leads named
  | idle sound idle stage =>
    have silent (asked : ConnectionId) : milestones (server.news next asked) = [] :=
      @news [] (by rw [List.append_nil]; rfl) asked
    refine .affair number ?_ (fun asked _ => silent asked)
      (.leaves identity.player ⟨found, ?_, ?_, silent⟩)
    · intro asked other
      rw [lobby]
      exact (put asked).trans (if_neg other)
    · intro game playing
      rw [stage, playing] at idle
      cases idle
    · intro after found'
      rw [lobby] at found'
      cases here.symm.trans found'
      rw [← stage]
      exact shape
  | @goes_on game after sound playing removed stage =>
    have accepted : game.attempt (.remove identity.player) = .ok after := removed
    have silent (asked : ConnectionId) : milestones (server.news next asked) = [] :=
      (news rfl asked).trans ((plain_turn _ number).milestonesIn asked)
    refine .affair number ?_ (fun asked _ => silent asked)
      (.moves (room.players.erase identity.player) ⟨found, playing, accepted, ?_, ?_⟩)
    · intro asked other
      rw [lobby]
      exact (put asked).trans (if_neg other)
    · rw [lobby, ← stage]
      exact here.trans (congrArg some shape)
    · rintro asked me ⟨_, seats⟩
      rw [lobby] at seats
      have remains : me ∈ rest.players := (Lobby.seats_iff here).1 seats
      rw [players] at remains
      have other := (hosts.sound.distinct.mem_erase_iff.1 remains).1
      have kept := Game.holdsCards_congr (Game.hand?_of_remove removed other)
      rw [silent, if_neg (by simp [Game.Empties, kept])]

/-! ## Turns -/

section Turns

variable {game after : Game} {mail : List Delivery} (linked : server.Linked)

include linked

section Acts

variable (found : server.lobby.room? number = some room) (playing : room.stage = .playing game)
  (outside : ∀ id, (∀ player, ¬server.Sits id player number) → milestonesIn mail id = [])
  (heard : ∀ {id me}, server.Sits id me number →
    milestonesIn mail id = if game.Empties after me then [.win] else [])

include found playing outside heard

/-- A move has been made, and it is the next player's turn. -/
theorem happening_of_move {move : Move} (accepted : game.attempt move = .ok after) :
    server.Happening (((server.putGame room after).saying mail).tellTurn number) := by
  have rooms := room?_of_stage linked found (.playing after)
  have here := (rooms number).trans (if_pos rfl)
  rw [tellTurn_eq_saying, saying_saying]
  let whole := mail ++ ((server.putGame room after).saying mail).turnMail number
  have spoken (asked : ConnectionId) : milestonesIn whole asked = milestonesIn mail asked := by
    rw [milestonesIn_append, (plain_turn _ _).milestonesIn, List.append_nil]
  have same {id : ConnectionId} {player : PlayerId} :=
    @sits_of_stage server id player number room ((server.putGame room after).saying whole) _ found
      (samePeople_of_eq rfl) here
  refine .affair number (fun asked other => (rooms asked).trans (if_neg other)) ?_
    (.moves room.players ⟨found, playing, accepted, here, ?_⟩)
  · intro id absent
    rw [news_of_said rfl]
    exact (spoken id).trans (outside id fun player sits => absent player (same.2 sits))
  · intro id me sits
    rw [news_of_said rfl]
    exact (spoken id).trans (heard (same.1 sits))

/-- A card has been laid, and the game is over. -/
theorem happening_of_end {player : PlayerId} {card : Card}
    (accepted : game.attempt (.play player card) = .ok after) (ended : after.isFinished = true) :
    server.Happening (((server.putGame room after).saying mail).finishGame number .played) := by
  let closed : Room := { room with stage := .finished after }
  have concluded : ({ room with stage := .playing after } : Room).conclude.2 = closed := by
    simp [Room.conclude, ended, closed]
  have twice : (server.putGame room after).lobby.put closed = server.lobby.put closed :=
    Lobby.put_put rfl
  have before := (room?_of_stage linked found (.playing after) number).trans (if_pos rfl)
  have rooms := room?_of_stage linked found (.finished after)
  have here : (server.putRoom closed).lobby.room? number = some closed :=
    (rooms number).trans (if_pos rfl)
  have acted := @Linked.acted _ _ _ linked _ _ (.play player card) found playing trivial accepted
  rw [concluded] at acted
  have hosts : (server.putRoom closed).Hosts number closed := acted.hosts here
  let whole := mail ++ (server.putRoom closed).closingMail number closed .played
  have same {asked : ConnectionId} {player : PlayerId} :=
    @sits_of_stage server asked player number room ((server.putRoom closed).saying whole) _ found
      (samePeople_of_eq rfl) here
  rw [finishGame_eq_saying before, concluded, twice]
  change server.Happening ((server.putRoom closed).saying whole)
  refine .affair number (fun asked other => (rooms asked).trans (if_neg other)) ?_
    (.finishes ⟨found, playing, accepted, .played _ _, here, ?_, fun _ _ => rfl, ?_⟩)
  · intro asked absent
    have missing := outside asked fun player sat => absent player (same.2 sat)
    have silent : ∀ player, ¬(server.putRoom closed).Sits asked player number :=
      fun player sat => absent player ⟨sat.leads, sat.seats⟩
    rw [news_of_said rfl]
    change milestonesIn whole asked = []
    rw [milestonesIn_append, missing,
      milestonesIn_of_silent (wordsTo_closingMail_of_absent here silent)]
    rfl
  · simpa [Game.isFinished] using ended
  · intro asked me sits
    have sat := same.1 sits
    have closing := @milestonesIn_closingMail (server.putRoom closed) _ _ _ _ after .played
      linked.indexed hosts rfl sat.leads ((Lobby.seats_iff found).1 sat.seats)
    rw [news_of_said rfl]
    change milestonesIn whole asked = _
    rw [milestonesIn_append, heard sat, closing, List.append_assoc]
    rfl

end Acts

theorem happening_of_draws (draws : server.Draws id next) : server.Happening next := by
  cases draws with
  | intro sits named found playing draws accepted on done lays_none =>
    have ready := ((linked.orderly.sound found).of_playing playing).2.2
    refine happening_of_move linked found playing ?_ ?_ accepted
    · exact fun asked _ => (plain_deedMail _).milestonesIn asked
    · intro asked me _
      have kept := @Game.holdsCards_of_draws _ _ _ me _ ready accepted draws
      rw [(plain_deedMail _).milestonesIn, if_neg (by simp [Game.Empties, kept.1])]

theorem happening_of_play {session : Session} {card : Card}
    (live : server.sessions.get? id = some session)
    (served : server.servePlay id card = .ok next) : server.Happening next := by
  rcases exists_of_servePlay linked live served with
    ⟨identity, number, room, game, played, after, sits, named, found, playing, laid, answered⟩
  have accepted : game.attempt (.play identity.player card) = .ok after :=
    congrArg (Except.map Prod.snd) laid
  let mail := (server.putGame room after).deedMail id identity number (.lay card) ++
    winMail id played.emptiedHand
  have wins (asked : ConnectionId) : milestonesIn mail asked =
      if asked = id ∧ played.emptiedHand = true then [.win] else [] := by
    rw [milestonesIn_append, (plain_deedMail _).milestonesIn, milestonesIn_winMail,
      List.nil_append]
  have outside (asked : ConnectionId) (absent : ∀ player, ¬server.Sits asked player number) :
      milestonesIn mail asked = [] := by
    rw [wins, if_neg]
    rintro ⟨rfl, _⟩
    exact absent _ sits
  have heard {asked : ConnectionId} {me : PlayerId} (sits' : server.Sits asked me number) :
      milestonesIn mail asked = if game.Empties after me then [.win] else [] := by
    have own : asked = id ↔ me = identity.player := by
      constructor
      · rintro rfl
        exact linked.indexed.eq_of_findPlayer? sits'.leads sits.leads
      · rintro rfl
        exact Option.some.inj (sits'.leads.symm.trans sits.leads)
    simp only [wins, Game.empties_of_play_iff laid, own]
  dsimp only at answered
  rw [answered]
  split
  · next ended => exact happening_of_end linked found playing outside heard accepted ended
  · exact happening_of_move linked found playing outside heard accepted

end Turns

/-! ## Who leaves or is ended -/

theorem happening_of_leaveRoom {session : Session} (linked : server.Linked)
    (live : server.sessions.get? id = some session) (served : server.serveLeaveRoom id = .ok next) :
    server.Happening next := by
  rw [serveLeaveRoom_eq] at served
  rcases exists_of_inRoom live served with ⟨identity, number, carries, inside, answered⟩
  have sits := linked.sits live carries inside
  rcases depart_eq_ok linked.orderly sits.seats with ⟨lobby, mail, left, _⟩
  simp only [left] at answered
  cases answered
  have moved := moved_moveAll (({ server with lobby } : Server).saying mail) [id] .lobby
  have people : server.SamePeople
      (((({ server with lobby } : Server).saying mail).move id .lobby).tell id (.ok .leaveRoom)) :=
    ⟨moved.byPlayer, moved.identity⟩
  exact @happening_of_depart server _ _ id identity number []
    [{ connection := id, notice := .ok .leaveRoom }] linked sits left rfl rfl (by simp [Plain])
    (List.forall_mem_singleton.2 rfl) (fun player _ => people.findPlayer? player)
    (fun player _ => people.nicknameOf? player)

/-- Whoever is not carried by a connection that is gone is carried as before. -/
theorem findPlayer?_close {sessions : Sessions} (other : sessions.findPlayer? player ≠ some id) :
    (sessions.close id).2.findPlayer? player = sessions.findPlayer? player := by
  cases found : sessions.get? id with
  | none => simp [Sessions.close, found]
  | some session =>
    simp only [Sessions.close, found]
    rw [Sessions.findPlayer?, Sessions.get?_release, if_neg (other ·.2)]
    rfl

theorem nicknameOf?_close (other : server.sessions.findPlayer? player ≠ some id)
    (cause : ClosingCause) :
    (({ server with sessions := (server.sessions.close id).2 } : Server).close id cause).nicknameOf?
      player = server.nicknameOf? player := by
  have leads := findPlayer?_close other
  simp only [nicknameOf?, carrier?, Server.close, leads, Option.bind_eq_bind]
  cases found : server.sessions.findPlayer? player with
  | none => rfl
  | some carrier =>
    have apart : carrier ≠ id := fun same => other (by rw [found, same])
    rw [Option.bind_some, Option.bind_some, Sessions.get?_close, if_neg apart]

theorem happening_of_terminate (linked : server.Linked) (id : ConnectionId) (reason : EndReason) :
    server.Happening (server.terminate id reason) := by
  rw [terminate_eq]
  rcases shut_eq (server.unseat id) id reason with ⟨cause, shut⟩
  rw [shut]
  cases seat : server.seated? id with
  | none =>
    rw [unseat, seat]
    exact @happening_of_plain _ _ [] rfl rfl (by simp [Plain])
  | some seated =>
    rcases seated with ⟨identity, number⟩
    have sits := (linked.sits_of_seated? seat).1
    let dead := server.roomMail number (.dead identity.nickname) (some identity.player)
    rcases depart_eq_ok (linked.saying dead).orderly sits.seats with ⟨lobby, mail, left, _⟩
    have unseated :
        server.unseat id = ({ server.saying dead with lobby } : Server).saying mail := by
      simp only [unseat, seat, tellRoom_eq_saying]
      rw [left]
    rw [unseated]
    have apart {other : PlayerId} (different : other ≠ identity.player) :
        server.sessions.findPlayer? other ≠ some id :=
      fun leads => different (linked.indexed.eq_of_findPlayer? leads sits.leads)
    exact @happening_of_depart server _ _ id identity number dead [] linked sits left rfl rfl
      (plain_roomMail_of rfl _ _) (by simp [Plain])
      (fun other different => findPlayer?_close (apart different))
      (fun other different => nicknameOf?_close (apart different) cause)

/-! ## Requests -/

theorem happening_of_tell {notice : Notice} (plain : notice.IsMilestone = false) :
    server.Happening (server.tell id notice) :=
  @happening_of_plain _ _ [{ connection := id, notice }] rfl rfl (List.forall_mem_singleton.2 plain)

theorem happening_of_name {nickname : String} (served : server.serveName id nickname = .ok next) :
    server.Happening next := by
  have named {sessions : Sessions} {nextPlayer : PlayerId} : server.Happening
      (({ server with nextPlayer, sessions } : Server).tell id (.ok .name)) :=
    @happening_of_plain _ _ [{ connection := id, notice := .ok .name }] rfl rfl
      (List.forall_mem_singleton.2 rfl)
  unfold serveName at served
  split at served
  · cases served
  · split at served
    · cases served
    · split at served
      · split at served
        · split at served
          · cases served
          · next previous sessions _ =>
            rw [tellWake_eq_saying, tell_eq_saying, saying_saying] at served
            cases served
            exact happening_of_plain rfl rfl
              (Plain.append (List.forall_mem_singleton.2 rfl) (plain_wakeMail id))
        · cases served
          exact happening_of_tell rfl
      · dsimp only at served
        split at served
        · cases served
        · cases served
          exact named

theorem happening_of_request {session : Session} {request : Request} (linked : server.Linked)
    (live : server.sessions.get? id = some session) (served : server.serve id request = .ok next) :
    server.Happening next := by
  cases request with
  | ok | pong =>
    cases served
    exact @happening_of_plain _ _ [] rfl rfl (by simp [Plain])
  | name nickname => exact happening_of_name served
  | listRooms =>
    rcases exists_of_inLobby live served with ⟨_, _, _, answered⟩
    cases answered
    exact happening_of_tell rfl
  | joinRoom number =>
    rcases seating_of_joinRoom linked live served with rfl | seating
    · exact happening_of_tell rfl
    · exact happening_of_seating linked seating
  | createRoom =>
    rcases seating_of_createRoom linked live served with rfl | seating
    · exact happening_of_tell rfl
    · exact happening_of_seating linked seating
  | leaveRoom => exact happening_of_leaveRoom linked live served
  | roomInfo =>
    rcases exists_of_inRoom live served with ⟨_, number, _, _, answered⟩
    dsimp only at answered
    split at answered
    · cases answered
      exact happening_of_tell rfl
    · cases answered
  | state =>
    change server.serveState id = .ok next at served
    simp only [serveState, live, checked] at served
    split at served
    · cases served
      exact happening_of_tell rfl
    · cases served
  | play card => exact happening_of_play linked live served
  | draw => exact happening_of_draws linked (draws_of_serveDraw linked live served)
  | pass => exact happening_of_draws linked (draws_of_servePass linked live served)

/-! ## Steps -/

/-- What happens in a step. -/
theorem Step.happening (step : server.Step next) (linked : server.Linked) :
    server.Happening next := by
  have silent {next : Server} (lobby : next.lobby = server.lobby) (said : next.said = server.said) :
      server.Happening next :=
    @happening_of_plain _ _ [] lobby said (by simp [Plain])
  cases step with
  | begin =>
    refine .nothing (fun _ => rfl) fun id => ?_
    have unsaid : ({ server with said := [] } : Server).lines id = [] := rfl
    rw [news, unsaid, List.drop_nil]
    rfl
  | finish | fill | read | drain | beat | collect => exact silent rfl rfl
  | accept id now =>
    unfold acceptCore
    split <;> exact silent rfl rfl
  | wake id =>
    rw [tellWake_eq_saying]
    exact happening_of_plain rfl rfl (plain_wakeMail id)
  | @serve id frame next served =>
    simp only [dispatch] at served
    split at served
    · cases served
    · next live =>
      split at served
      · rcases Option.ne_none_iff_exists'.1 (by simpa using live) with ⟨session, found⟩
        exact happening_of_request linked found served
      · cases served
  | terminate id reason => exact happening_of_terminate linked id reason
  | ping id => exact happening_of_tell rfl
  | react event =>
    rcases event with ⟨id, _ | _⟩
    · simp only [Server.react, tellRoom_eq_saying]
      split
      · exact happening_of_plain rfl rfl (plain_roomMail_of rfl _ _)
      · exact silent rfl rfl
    · exact happening_of_terminate linked id .silence

end CardTable.Server
