import CardTable.Proofs.Game.Hands
import CardTable.Proofs.Server.Visits

/-!
# Tables

What clients see of a game: that it starts, what is done on turn, and that it is over.
-/

namespace CardTable

/-! ## Deeds of a game -/

namespace Deed

variable {game next : Game} {player : PlayerId}

theorem done_of_play {card : Card} {played : Played}
    (accepted : game.play player card = .ok (played, next)) :
    (lay card).Done game player next := by
  refine ⟨(Game.hand?_of_play accepted player).trans (if_pos rfl),
    fun other apart => (Game.hand?_of_play accepted other).trans (if_neg apart), ?_⟩
  rintro _ ⟨⟩
  rcases Game.play_eq_ok accepted with ⟨turn, allowed, held, _⟩
  exact ⟨_, Game.hand?_of_seatOf? (Game.turnOf_eq_ok_iff.1 allowed).2, held⟩

theorem done_of_drawCard {cards : List Card}
    (accepted : game.drawCard player = .ok (cards, next)) : (draw cards).Done game player next := by
  refine ⟨(Game.hand?_of_drawCard accepted player).trans (if_pos rfl),
    fun other apart => (Game.hand?_of_drawCard accepted other).trans (if_neg apart), ?_⟩
  rintro _ ⟨⟩

/-- What giving in comes to. -/
def ofPassed : Passed → Deed
  | .skipped => skip
  | .drew cards => draw cards

theorem done_of_pass {passed : Passed} (accepted : game.pass player = .ok (passed, next)) :
    (ofPassed passed).Done game player next := by
  have hands := Game.hand?_of_pass accepted
  cases passed with
  | skipped =>
    refine ⟨?_, fun other _ => hands other, ?_⟩
    · rw [hands player]
      cases game.hand? player <;> rfl
    · rintro _ ⟨⟩
  | drew cards =>
    refine ⟨(hands player).trans (if_pos rfl), fun other apart => (hands other).trans (if_neg apart),
      ?_⟩
    rintro _ ⟨⟩

end Deed

namespace Server

variable {server : Server} {told : ConnectionId → Bool} {id : ConnectionId}
  {player : PlayerId} {number : RoomId} {room : Room}

/-! ## What is said about the turn -/

theorem wordsTo_turnMail_of_absent (absent : ∀ player, ¬server.Sits id player number) :
    wordsTo (server.turnMail number) id = [] := by
  rw [turnMail]
  split
  · exact wordsTo_roomMail_of_absent absent _ _
  · rfl

theorem wordsTo_turnMail (indexed : server.sessions.Indexed) (hosts : server.Hosts number room)
    (told : ConnectionId → Bool) {game : Game} (playing : room.stage = .playing game)
    (leads : server.sessions.findPlayer? player = some id) (member : player ∈ room.players) :
    ∃ turn, (server.scene told number).turn? = some turn ∧
      wordsTo (server.turnMail number) id = [.said (.turn turn)] := by
  rcases exists_turn indexed hosts told playing with ⟨turn, shown⟩
  refine ⟨turn, shown, ?_⟩
  have view := (turnView?_eq indexed hosts told).trans shown
  rw [turnMail, view]
  exact (wordsTo_roomMail indexed hosts leads member (.turn turn) none).trans (if_neg (by simp))

theorem mem_turnMail {delivery : Delivery} (member : delivery ∈ server.turnMail number) :
    ∃ turn, delivery.notice = .turn turn := by
  rw [turnMail] at member
  split at member
  · next turn _ => exact ⟨turn, mem_roomMail member⟩
  · cases member

theorem plain_turnMail (server : Server) (number : RoomId) :
    ∀ delivery ∈ server.turnMail number, delivery.notice ≠ .ok .play := by
  intro delivery member
  rcases mem_turnMail member with ⟨turn, notice⟩
  simp [notice]

/-! ## Changes of a stage -/

section Stage

variable {next : Server} {stage : Stage} (found : server.lobby.room? number = some room)
  (people : server.SamePeople next) (here : next.lobby.room? number = some { room with stage })

include found people here

theorem sits_of_stage : next.Sits id player number ↔ server.Sits id player number := by
  have seats : next.lobby.Seats number player ↔ server.lobby.Seats number player := by
    rw [Lobby.seats_iff here, Lobby.seats_iff found]
  constructor
  · rintro ⟨leads, seated⟩
    exact ⟨(people.findPlayer? player).symm.trans leads, seats.1 seated⟩
  · rintro ⟨leads, seated⟩
    exact ⟨(people.findPlayer? player).trans leads, seats.2 seated⟩

theorem scene_of_stage (told : ConnectionId → Bool) :
    next.scene told number = { server.scene told number with game := stage.on? } := by
  have same : next.guest? told = server.guest? told := funext (people.guest? told)
  rw [scene_of_room? here, scene_of_room? found, same]

end Stage

/-- If only the stage of a room changes, only its players have to see it. -/
theorem shown_of_stage {next : Server} {learned : ConnectionId → List Word}
    (linked : server.Linked) (found : server.lobby.room? number = some room) {stage : Stage}
    (people : server.SamePeople next)
    (rooms : ∀ asked, next.lobby.room? asked =
      if asked = number then some { room with stage } else server.lobby.room? asked)
    (quiet : ∀ id, (∀ player, ¬server.Sits id player number) → learned id = [])
    (sees : ∀ {id player}, server.Sits id player number → player ∈ room.players →
      Sees player (server.scene told number) (learned id)
        { server.scene told number with game := stage.on? }) :
    server.Shown told next told learned := by
  have here : next.lobby.room? number = some { room with stage } := (rooms number).trans (if_pos rfl)
  have seats : ∀ {player asked}, next.lobby.Seats asked player ↔ server.lobby.Seats asked player := by
    intro player asked
    by_cases same : asked = number
    · rw [same, Lobby.seats_iff here, Lobby.seats_iff found]
    · rw [Lobby.Seats, Lobby.Seats, rooms, if_neg same]
  refine shown_of_room number people linked.indexed
    (fun asked other => (rooms asked).trans (if_neg other))
    (fun seated seated' => linked.alone (seats.1 seated') (seats.1 seated)) ?_ ?_
  · intro id absent
    exact ⟨quiet id fun player sat => absent player ((sits_of_stage found people here).2 sat), rfl⟩
  · intro id player sat'
    have sat := (sits_of_stage found people here).1 sat'
    refine .stays sat ?_
    rw [scene_of_stage found people here]
    exact sees sat ((Lobby.seats_iff found).1 sat.seats)

/-! ## Starts -/

theorem room?_of_start {lobby next : Lobby} (found : lobby.room? number = some room)
    (filed : room.id = number) (started : lobby.start number = .ok next) :
    ∃ game, Game.deal room.players room.config.handSize (lobby.deals.headD default) = .ok game ∧
      ∀ asked, next.room? asked =
        if asked = number then some { room with stage := .playing game } else lobby.room? asked := by
  cases begun : room.start (lobby.deals.headD default) with
  | error error =>
    rw [Lobby.start, Lobby.find_of_room? found] at started
    simp only [bind, Except.bind, begun] at started
    cases started
  | ok playing =>
    rw [Lobby.start_of_room? found begun] at started
    cases started
    unfold Room.start at begun
    split at begun
    · cases begun
    · split at begun
      · next game dealt =>
        cases begun
        exact ⟨game, dealt,
          @Lobby.room?_put_of_room? _ _ _ { room with stage := .playing game } found filed⟩
      · cases begun

/-- What a room hears when its game starts. -/
def openingMail (server : Server) (number : RoomId) (players : List PlayerId)
    (hand : PlayerId → List Card) : List Delivery :=
  server.roomMail number .gameStart none ++
    server.mailTo players (fun player => .hand (hand player)) ++ server.turnMail number

theorem wordsTo_openingMail_of_absent {hand : PlayerId → List Card}
    (found : server.lobby.room? number = some room)
    (absent : ∀ player, ¬server.Sits id player number) :
    wordsTo (server.openingMail number room.players hand) id = [] := by
  have unheard : wordsTo (server.mailTo room.players fun player => .hand (hand player)) id = [] := by
    apply wordsTo_mailTo_of_absent
    intro player member leads
    exact absent player ⟨leads, room, found, member⟩
  rw [openingMail, wordsTo_append, wordsTo_append, wordsTo_roomMail_of_absent absent, unheard,
    wordsTo_turnMail_of_absent absent]
  rfl

theorem wordsTo_openingMail {hand : PlayerId → List Card} (indexed : server.sessions.Indexed)
    (hosts : server.Hosts number room) (leads : server.sessions.findPlayer? player = some id)
    (member : player ∈ room.players) :
    wordsTo (server.openingMail number room.players hand) id =
      [.said .gameStart, .said (.hand (hand player))] ++ wordsTo (server.turnMail number) id := by
  have first := wordsTo_roomMail indexed hosts leads member .gameStart none
  have second := wordsTo_mailTo indexed hosts.sound.distinct leads member
    fun player => .hand (hand player)
  rw [openingMail, wordsTo_append, wordsTo_append, first, if_neg (by simp), second]
  rfl

/-- The players of a room see that their game starts, what they are dealt, and whose turn it is. -/
theorem quietly_started {begun : Server} (linked : server.Linked)
    (found : server.lobby.room? number = some room) (people : server.SamePeople begun)
    (linked' : begun.Linked) {wanted : Nat} {chance : Deal} {game : Game}
    (dealt : Game.deal room.players wanted chance = .ok game)
    (rooms : ∀ asked, begun.lobby.room? asked =
      if asked = number then some { room with stage := .playing game }
      else server.lobby.room? asked)
    (said : begun.said = server.said) (keeps : server.sessions.Keeps begun.sessions)
    {hand : PlayerId → List Card}
    (hands : ∀ player ∈ room.players, game.hand? player = some (hand player))
    {mail : List Delivery} (mail_eq : mail = begun.openingMail number room.players hand) :
    server.Quietly told (begun.saying mail) := by
  have here : begun.lobby.room? number = some { room with stage := .playing game } :=
    (rooms number).trans (if_pos rfl)
  have hosts := linked'.hosts here
  refine quietly_of_shown mail (shown_of_stage linked found
    ⟨people.byPlayer, people.identity⟩ rooms ?_ ?_) ?_ ?_ keeps
  · intro id absent
    have outside : ∀ player, ¬begun.Sits id player number :=
      fun player sits => absent player ((sits_of_stage found people here).1 sits)
    have silent := @wordsTo_openingMail_of_absent begun _ _ _ hand here outside
    rw [mail_eq]
    exact silent
  · intro id me sat member
    have leads := (people.findPlayer? me).trans sat.leads
    have scenes := scene_of_stage found people here told
    rcases wordsTo_turnMail linked'.indexed hosts told rfl leads member with ⟨turn, shown, last⟩
    have heard := @wordsTo_openingMail begun _ _ _ _ hand linked'.indexed hosts leads member
    rw [last] at heard
    rw [mail_eq, heard]
    refine .start (hands me member) ?_ (scenes ▸ shown)
    -- The client learns only its own hand, but all hands of a deal have the same size.
    have size : ∀ {player held}, game.hand? player = some held →
        held.length = Game.handSize room.players.length wanted := by
      intro player held owns
      rcases Option.map_eq_some_iff.1 owns with ⟨seat, seated, rfl⟩
      exact Game.length_hand_of_deal dealt seat (List.mem_of_find?_eq_some seated)
    intro guest seen
    have own := hands guest.player ((mem_guests found).1 seen).1
    exact ⟨_, own, (size own).trans (size (hands me member)).symm⟩
  · rw [saying, said]
  · intro delivery member
    rw [mail_eq, openingMail] at member
    rcases List.mem_append.1 member with earlier | last
    · rcases List.mem_append.1 earlier with first | second
      · exact plain_roomMail (by simp) _ _ delivery first
      · rcases List.mem_filterMap.1 second with ⟨player, _, sent⟩
        rcases Option.map_eq_some_iff.1 sent with ⟨connection, _, rfl⟩
        simp
    · exact plain_turnMail _ _ delivery last

theorem said_moveAll (server : Server) (ids : List ConnectionId) (location : Location) :
    (server.moveAll ids location).said = server.said := by
  induction ids generalizing server with
  | nil => rfl
  | cons id ids ih => exact ih (server.move id location)

/-- A full room that waits is dealt its game, its players are moved to the game, and then they hear of
it; nothing happens in any other room. -/
theorem exists_begun (found : server.lobby.room? number = some room) (filed : room.id = number)
    {next : Server} (started : server.startIfFull number = .ok next) :
    next = server ∧ ¬(room.IsFull ∧ room.stage = .waiting) ∨
      ∃ game begun hand, room.IsFull ∧ room.stage = .waiting ∧
        Game.deal room.players room.config.handSize (server.lobby.deals.headD default) = .ok game ∧
        (∀ player ∈ room.players, game.hand? player = some (hand player)) ∧
        (∀ asked, begun.lobby.room? asked =
          if asked = number then some { room with stage := .playing game }
          else server.lobby.room? asked) ∧
        ({ server with lobby := begun.lobby } : Server).Moved
          (room.players.filterMap server.sessions.findPlayer?) (.game number) begun ∧
        begun.said = server.said ∧
        next = begun.saying (begun.openingMail number room.players hand) := by
  simp only [Server.startIfFull, Lobby.find_of_room? found] at started
  split at started
  · next unready =>
    rw [← not_and_or, Room.isJoinable_iff] at unready
    cases started
    exact .inl ⟨rfl, unready⟩
  · next ready =>
    rw [not_or, not_not, not_not, Room.isJoinable_iff] at ready
    cases begun : server.lobby.start number with
    | error error =>
      rw [begun] at started
      cases started
    | ok lobby =>
      rcases room?_of_start found filed begun with ⟨game, dealt, rooms⟩
      simp only [begun, tellTurn_eq_saying, tellPlayers_eq_saying, tellRoom_eq_saying,
        saying_saying] at started
      have move := moved_moveAll { server with lobby }
        (room.players.filterMap server.sessions.findPlayer?) (.game number)
      have silent := said_moveAll { server with lobby }
        (room.players.filterMap server.sessions.findPlayer?) (.game number)
      simp only [moveAll] at move silent
      generalize List.foldl _ _ _ = begun at started move silent
      cases started
      refine .inr ⟨game, begun, _, ready.1, ready.2, dealt, ?_, move.lobby ▸ rooms,
        ⟨move.get?, move.byName, move.byPlayer, rfl, move.nextPlayer⟩, silent, rfl⟩
      intro player member
      rcases Game.exists_hand ((Game.ready_of_deal dealt).1 ▸ member) with ⟨seat, _, held⟩
      have on : begun.game? number = some game := by
        simp [game?, move.lobby, rooms, Room.game?, Stage.game?]
      change _ = some (((begun.game? number).bind fun game => game.hand? player).getD [])
      rw [on, Option.bind_some, held]
      rfl

/-- A full room that waits is dealt its game, and then its players hear of it; nothing happens in
any other room. -/
theorem startIfFull_eq_ok (found : server.lobby.room? number = some room) (filed : room.id = number)
    {next : Server} (started : server.startIfFull number = .ok next) :
    next = server ∧ ¬(room.IsFull ∧ room.stage = .waiting) ∨
      ∃ game begun hand, room.IsFull ∧ room.stage = .waiting ∧
        Game.deal room.players room.config.handSize (server.lobby.deals.headD default) = .ok game ∧
        (∀ player ∈ room.players, game.hand? player = some (hand player)) ∧
        (∀ asked, begun.lobby.room? asked =
          if asked = number then some { room with stage := .playing game }
          else server.lobby.room? asked) ∧
        server.SamePeople begun ∧ server.sessions.Keeps begun.sessions ∧ begun.said = server.said ∧
        next = begun.saying (begun.openingMail number room.players hand) := by
  rcases exists_begun found filed started with
    same | ⟨game, begun, hand, full, waiting, dealt, hands, rooms, moved, said, next_eq⟩
  · exact .inl same
  · exact .inr ⟨game, begun, hand, full, waiting, dealt, hands, rooms,
      ⟨moved.byPlayer, moved.identity⟩, moved.keeps, said, next_eq⟩

/-- The players of a full room see that their game starts. -/
theorem quietly_startIfFull (linked : server.Linked)
    (found : server.lobby.room? number = some room) {next : Server}
    (started : server.startIfFull number = .ok next) : server.Quietly told next := by
  rcases linked.startIfFull found with ⟨next', started', linked'⟩
  cases started.symm.trans started'
  rcases startIfFull_eq_ok found (linked.orderly.filed found) started with
    ⟨rfl, _⟩ | ⟨game, begun, hand, _, _, dealt, hands, rooms, people, keeps, said, rfl⟩
  · exact .refl _ _
  · exact quietly_started linked found people (linked'.of_alike (.refl _) rfl rfl) dealt rooms said
      keeps hands rfl

end Server

end CardTable
