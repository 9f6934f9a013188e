import CardTable.Proofs.Server.Verdicts

/-!
# How far a request reaches

Whatever one connection asks for, it reaches no further than the room in which that connection sits
before or after: no other room changes, nobody elsewhere hears anything, and of the other sessions
only those that follow their room into its game are moved. The one exception is a sleeper whose
nickname is taken over, and whose session is gone then.
-/

namespace CardTable

/-- Lines that tell how somebody's stay in a room goes on or ends. -/
def Notice.IsSign : Notice → Bool
  | sleep _ | awake _ | dead _ | leave _ => true
  | _ => false

namespace Server

variable {server next : Server} {id other : ConnectionId} {player : PlayerId}
  {identity : Identity} {number : RoomId} {room rest : Room} {mail later : List Delivery}

/-- A room in which a connection sits before a change or after it. -/
def Touches (server next : Server) (id : ConnectionId) (number : RoomId) : Prop :=
  ∃ player, server.Sits id player number ∨ next.Sits id player number

/-- A session has gone with its room into a game. -/
def Promotes (server next : Server) (other : ConnectionId) (number : RoomId) : Prop :=
  ∃ session, server.sessions.get? other = some session ∧ session.location = .room number ∧
    next.sessions.get? other = some { session with location := .game number }

/-- What a change for one connection does, with some mail, to everybody else. -/
structure Effect (server next : Server) (id : ConnectionId) (displaced : ConnectionId → Prop)
    (mail : List Delivery) : Prop where
  said : next.said = mail.reverse ++ server.said
  rooms : ∀ number, ¬server.Touches next id number →
    next.lobby.room? number = server.lobby.room? number
  heard : ∀ other, other ≠ id →
    (∀ player number, server.Touches next id number → ¬server.Sits other player number) →
      wordsTo mail other = []
  others : ∀ other, other ≠ id → ¬displaced other →
    next.sessions.get? other = server.sessions.get? other ∨
      ∃ number, server.Touches next id number ∧ server.Opens next number ∧
        server.Promotes next other number
  displaced : ∀ other, displaced other → next.sessions.get? other = none
  keeps : server.sessions.Keeps next.sessions

/-- Mail without a line about anybody's stay. -/
def Unsigned (mail : List Delivery) : Prop :=
  ∀ delivery ∈ mail, delivery.notice.IsSign = false

/-! ## Kinds of mail -/

theorem Unsigned.append (unsigned : Unsigned mail) (unsigned' : Unsigned later) :
    Unsigned (mail ++ later) :=
  List.forall_mem_append.2 ⟨unsigned, unsigned'⟩

theorem unsigned_roomMail {notice : Notice} (unsigned : notice.IsSign = false) (number : RoomId)
    (except : Option PlayerId) : Unsigned (server.roomMail number notice except) := by
  intro delivery member
  rwa [mem_roomMail member]

theorem unsigned_mailTo {players : List PlayerId} {notice : PlayerId → Notice}
    (unsigned : ∀ player, (notice player).IsSign = false) :
    Unsigned (server.mailTo players notice) := by
  intro delivery member
  rcases List.mem_filterMap.1 member with ⟨player, _, sent⟩
  rcases Option.map_eq_some_iff.1 sent with ⟨connection, _, rfl⟩
  exact unsigned player

theorem unsigned_turnMail (server : Server) (number : RoomId) :
    Unsigned (server.turnMail number) := by
  intro delivery member
  rcases mem_turnMail member with ⟨turn, notice⟩
  rw [notice]
  rfl

theorem unsigned_closingMail (server : Server) (number : RoomId) (room : Room) (ending : Ending) :
    Unsigned (server.closingMail number room ending) := by
  unfold closingMail
  split
  · refine (unsigned_mailTo fun _ => ?_).append (unsigned_roomMail rfl _ _)
    cases ending <;> rfl
  · simp [Unsigned]

theorem unsigned_openingMail (server : Server) (number : RoomId) (players : List PlayerId)
    (hand : PlayerId → List Card) : Unsigned (server.openingMail number players hand) :=
  ((unsigned_roomMail rfl _ _).append (unsigned_mailTo fun _ => rfl)).append
    (unsigned_turnMail _ _)

theorem unsigned_deedMail (deed : Deed) : Unsigned (server.deedMail id identity number deed) := by
  cases deed with
  | lay card | draw cards => exact List.forall_mem_cons.2 ⟨rfl, unsigned_roomMail rfl _ _⟩
  | skip => exact unsigned_roomMail rfl _ _

theorem unsigned_winMail (id : ConnectionId) (emptied : Bool) : Unsigned (winMail id emptied) := by
  unfold winMail
  split
  · exact List.forall_mem_singleton.2 rfl
  · simp [Unsigned]

theorem wordsTo_winMail_of_ne (apart : other ≠ id) (emptied : Bool) :
    wordsTo (winMail id emptied) other = [] := by
  unfold winMail
  split
  · rw [wordsTo_cons, if_neg (Ne.symm apart)]
    rfl
  · rfl

/-- Whoever neither acts nor sits in the room does not hear of a deed. -/
theorem wordsTo_deedMail_of_absent (apart : other ≠ id)
    (absent : ∀ player, ¬server.Sits other player number) (deed : Deed) :
    wordsTo (server.deedMail id identity number deed) other = [] := by
  have unheard := fun notice except => wordsTo_roomMail_of_absent absent notice except
  cases deed <;> simp [deedMail, wordsTo_cons, unheard, Ne.symm apart]

/-! ## Effects -/

/-- Nothing is done but that something is said to the connection itself. -/
theorem effect_of_tell {notice : Notice} : server.Effect (server.tell id notice) id
    (fun _ => False) [{ connection := id, notice }] where
  said := rfl
  rooms _ _ := rfl
  heard other apart _ := by rw [wordsTo_tell, if_neg apart]
  others _ _ _ := .inl rfl
  displaced _ := False.elim
  keeps := .refl _

/-- Something happens in one room, and no session but the own one is touched. -/
theorem effect_of_room (touches : server.Touches next id number)
    (said : next.said = mail.reverse ++ server.said)
    (elsewhere : ∀ asked, asked ≠ number → next.lobby.room? asked = server.lobby.room? asked)
    (heard : ∀ other, other ≠ id → (∀ player, ¬server.Sits other player number) →
      wordsTo mail other = [])
    (others : ∀ other, other ≠ id → next.sessions.get? other = server.sessions.get? other)
    (keeps : server.sessions.Keeps next.sessions) :
    server.Effect next id (fun _ => False) mail where
  said := said
  rooms asked untouched := by
    refine elsewhere asked ?_
    rintro rfl
    exact untouched touches
  heard other apart absent := heard other apart fun player => absent player number touches
  others other apart _ := .inl (others other apart)
  displaced _ := False.elim
  keeps := keeps

/-! ## Turns -/

section Turns

variable (linked : server.Linked) (sits : server.Sits id player number)
  (found : server.lobby.room? number = some room)
  (unheard : ∀ other, other ≠ id → (∀ player, ¬server.Sits other player number) →
    wordsTo mail other = [])

include linked sits found unheard

/-- Something is done in a game, and the turn is passed on. -/
theorem effect_of_move (after : Game) : server.Effect
    (((server.putGame room after).saying mail).tellTurn number) id (fun _ => False)
    (mail ++ ((server.putGame room after).saying mail).turnMail number) := by
  have rooms := room?_of_stage linked found (.playing after)
  have here := (rooms number).trans (if_pos rfl)
  rw [tellTurn_eq_saying, saying_saying]
  refine effect_of_room ⟨player, .inl sits⟩ rfl
    (fun asked apart => (rooms asked).trans (if_neg apart)) ?_ (fun _ _ => rfl) (.refl _)
  intro other apart absent
  have people : server.SamePeople ((server.putGame room after).saying mail) := samePeople_of_eq rfl
  have outside : ∀ player, ¬((server.putGame room after).saying mail).Sits other player number :=
    fun player sat => absent player ((sits_of_stage found people here).1 sat)
  rw [wordsTo_append, unheard other apart absent, wordsTo_turnMail_of_absent outside]
  rfl

/-- Something is done in a game, which is over then. -/
theorem effect_of_end {after : Game} (ended : after.isFinished = true) (ending : Ending) :
    ∃ later, Unsigned later ∧ server.Effect
      (((server.putGame room after).saying mail).finishGame number ending) id (fun _ => False)
      (mail ++ later) := by
  let closed : Room := { room with stage := .finished after }
  have concluded : ({ room with stage := .playing after } : Room).conclude.2 = closed := by
    simp [Room.conclude, ended, closed]
  have twice : (server.putGame room after).lobby.put closed = server.lobby.put closed :=
    Lobby.put_put rfl
  have before := (room?_of_stage linked found (.playing after) number).trans (if_pos rfl)
  have rooms := room?_of_stage linked found (.finished after)
  have here : (server.putRoom closed).lobby.room? number = some closed :=
    (rooms number).trans (if_pos rfl)
  rw [finishGame_eq_saying before, concluded, twice]
  refine ⟨_, unsigned_closingMail (server.putRoom closed) number closed ending,
    effect_of_room ⟨player, .inl sits⟩ rfl
      (fun asked apart => (rooms asked).trans (if_neg apart)) ?_ (fun _ _ => rfl) (.refl _)⟩
  intro other apart absent
  have people : server.SamePeople (server.putRoom closed) := samePeople_of_eq rfl
  have outside : ∀ player, ¬(server.putRoom closed).Sits other player number :=
    fun player sat => absent player ((sits_of_stage found people here).1 sat)
  rw [wordsTo_append, unheard other apart absent]
  exact wordsTo_closingMail_of_absent here outside

end Turns

theorem effect_of_play {session : Session} {card : Card} (linked : server.Linked)
    (live : server.sessions.get? id = some session)
    (served : server.servePlay id card = .ok next) :
    ∃ mail, server.Effect next id (fun _ => False) mail ∧ Unsigned mail := by
  rcases exists_of_servePlay linked live served with
    ⟨identity, number, room, game, played, after, sits, _, found, _, _, answered⟩
  have unheard : ∀ other, other ≠ id → (∀ player, ¬server.Sits other player number) →
      wordsTo ((server.putGame room after).deedMail id identity number (.lay card) ++
        winMail id played.emptiedHand) other = [] := by
    intro other apart absent
    rw [deedMail_putGame linked found, wordsTo_append, wordsTo_deedMail_of_absent apart absent,
      wordsTo_winMail_of_ne apart]
    rfl
  have unsigned := (@unsigned_deedMail (server.putGame room after) id identity number
    (.lay card)).append (unsigned_winMail id played.emptiedHand)
  dsimp only at answered
  split at answered
  · next ended =>
    subst answered
    rcases effect_of_end linked sits found unheard ended .played with ⟨later, closes, effect⟩
    exact ⟨_, effect, unsigned.append closes⟩
  · subst answered
    exact ⟨_, effect_of_move linked sits found unheard after,
      unsigned.append (unsigned_turnMail _ _)⟩

theorem effect_of_draws (linked : server.Linked) (draws : server.Draws id next) :
    ∃ mail, server.Effect next id (fun _ => False) mail ∧ Unsigned mail := by
  cases draws with
  | intro sits named found playing draws accepted on done lays_none =>
    refine ⟨_, effect_of_move linked sits found ?_ _,
      (unsigned_deedMail _).append (unsigned_turnMail _ _)⟩
    intro other apart absent
    rw [deedMail_putGame linked found]
    exact wordsTo_deedMail_of_absent apart absent _

/-! ## Departures -/

/-- Somebody has left a room. The others hear that first, in the given words, and outside the room
nobody hears anything. -/
structure Departed (server next : Server) (identity : Identity) (number : RoomId)
    (words : List Word) (mail later : List Delivery) : Prop where
  said : next.said = (mail ++ later).reverse ++ server.said
  without : server.lobby.Without number identity.player next.lobby
  unsigned : Unsigned later
  farewell : ∀ {asked me}, server.Sits asked me number → me ≠ identity.player →
    wordsTo mail asked = words
  silent : ∀ {asked}, (∀ me, server.Sits asked me number → me = identity.player) →
    wordsTo mail asked = [] ∧ wordsTo later asked = []

theorem exists_departed (linked : server.Linked)
    (seated : server.lobby.Seats number identity.player)
    (left : server.depart identity number = .ok next) : ∃ mail later,
      server.Departed next identity number [.said (.leave identity.nickname)] mail later := by
  have without : server.lobby.Without number identity.player next.lobby := by
    rcases depart_eq_ok linked.orderly seated with ⟨lobby, _, left', without⟩
    cases left.symm.trans left'
    exact without
  rcases seated with ⟨room, found, member⟩
  rcases departs_of_depart linked found member left with ⟨rest, filed, _, players, departs⟩
  have here : (server.putRoom rest).lobby.room? number = some rest :=
    (Lobby.room?_put_of_room? found filed number).trans (if_pos rfl)
  have remains {me : PlayerId} : me ∈ rest.players ↔ me ∈ room.players ∧ me ≠ identity.player := by
    rw [players, (linked.orderly.sound found).distinct.mem_erase_iff, and_comm]
  let mail := (server.putRoom rest).roomMail number (.leave identity.nickname) none
  have outside {asked : ConnectionId}
      (only : ∀ me, server.Sits asked me number → me = identity.player) (me : PlayerId) :
      ¬(server.putRoom rest).Sits asked me number := by
    rintro ⟨leads, seats⟩
    rcases remains.1 ((Lobby.seats_iff here).1 seats) with ⟨inside, other⟩
    exact other (only me ⟨leads, room, found, inside⟩)
  have farewell {asked : ConnectionId} {me : PlayerId} (sound : rest.players ≠ [] → rest.Sound)
      (sits : server.Sits asked me number) (other : me ≠ identity.player) :
      wordsTo mail asked = [.said (.leave identity.nickname)] := by
    have stays := remains.2 ⟨(Lobby.seats_iff found).1 sits.seats, other⟩
    have hosts := hosts_left linked found filed players (sound (List.ne_nil_of_mem stays))
    have heard := @wordsTo_roomMail (server.putRoom rest) _ _ _ _ linked.indexed hosts sits.leads
      stays (.leave identity.nickname) none
    simpa using heard
  have silent {asked : ConnectionId}
      (only : ∀ me, server.Sits asked me number → me = identity.player) :
      wordsTo mail asked = [] :=
    wordsTo_roomMail_of_absent (outside only) _ _
  cases departs with
  | emptied empty =>
    exact ⟨mail, [], by rw [List.append_nil]; rfl, without, by simp [Unsigned],
      farewell fun stays => (stays empty).elim, fun only => ⟨silent only, rfl⟩⟩
  | ended sound playing removed finished =>
    exact ⟨mail, _, rfl, without, unsigned_closingMail _ _ _ _, farewell fun _ => sound,
      fun only => ⟨silent only, wordsTo_closingMail_of_absent here (outside only)⟩⟩
  | idle sound idle same =>
    exact ⟨mail, [], by rw [List.append_nil]; rfl, without, by simp [Unsigned],
      farewell fun _ => sound, fun only => ⟨silent only, rfl⟩⟩
  | goes_on sound playing removed stage =>
    exact ⟨mail, _, rfl, without, unsigned_turnMail _ _, farewell fun _ => sound,
      fun only => ⟨silent only, wordsTo_turnMail_of_absent (outside only)⟩⟩

/-- When a session ends, whoever is left in its room hears of a death before the departure. -/
theorem exists_mourned (linked : server.Linked) (seat : server.seated? id = some (identity, number))
    (reason : EndReason) : ∃ mail later,
      server.Departed (server.terminate id reason) identity number
        [.said (.dead identity.nickname), .said (.leave identity.nickname)] mail later := by
  have sits := (linked.sits_of_seated? seat).1
  let dead := server.roomMail number (.dead identity.nickname) (some identity.player)
  rcases depart_eq_ok (linked.saying dead).orderly sits.seats with ⟨lobby, rest, left, _⟩
  have unseated : server.unseat id = ({ server.saying dead with lobby } : Server).saying rest := by
    simp only [unseat, seat, tellRoom_eq_saying]
    rw [left]
  rcases exists_departed (linked.saying dead) sits.seats left with ⟨mail, later, departed⟩
  rcases (server.unseat id).shut_eq id reason with ⟨cause, shut⟩
  rw [terminate_eq, shut, unseated]
  have deaths {asked : ConnectionId} {me : PlayerId} (sat : server.Sits asked me number) :
      wordsTo dead asked =
        if some identity.player = some me then [] else [.said (.dead identity.nickname)] := by
    rcases sat.seats with ⟨room, found, member⟩
    exact wordsTo_roomMail linked.indexed (linked.hosts found) sat.leads member _ _
  refine ⟨dead ++ mail, later, ?_, departed.without, departed.unsigned, ?_, ?_⟩
  · refine departed.said.trans ?_
    simp [saying]
  · intro asked me sat other
    have gone := departed.farewell ⟨sat.leads, sat.seats⟩ other
    rw [wordsTo_append, deaths sat, gone, if_neg (by simpa using Ne.symm other)]
    rfl
  · intro asked only
    have quiet : wordsTo dead asked = [] := by
      by_cases inside : ∃ me, server.Sits asked me number
      · rcases inside with ⟨me, sat⟩
        rw [deaths sat, if_pos (congrArg some (only me sat).symm)]
      · exact wordsTo_roomMail_of_absent (not_exists.1 inside) _ _
    rcases departed.silent fun me sat => only me ⟨sat.leads, sat.seats⟩ with ⟨first, second⟩
    rw [wordsTo_append, quiet, first]
    exact ⟨rfl, second⟩

theorem effect_of_leaveRoom {session : Session} (linked : server.Linked)
    (live : server.sessions.get? id = some session)
    (served : server.serveLeaveRoom id = .ok next) :
    ∃ mail, server.Effect next id (fun _ => False) mail := by
  rw [serveLeaveRoom_eq] at served
  rcases exists_of_inRoom live served with ⟨identity, number, carries, inside, answered⟩
  have sits := linked.sits live carries inside
  cases left : server.depart identity number with
  | error error =>
    simp only [left] at answered
    cases answered
  | ok middle =>
    simp only [left] at answered
    cases answered
    rcases exists_departed linked sits.seats left with ⟨mail, later, departed⟩
    have moved := moved_moveAll middle [id] .lobby
    refine ⟨(mail ++ later) ++ [{ connection := id, notice := .ok .leaveRoom }],
      effect_of_room ⟨_, .inl sits⟩ ?_ departed.without.elsewhere ?_ ?_ ?_⟩
    · rw [List.reverse_append, List.append_assoc, ← departed.said]
      rfl
    · intro other apart absent
      rcases departed.silent fun me sat => (absent me sat).elim with ⟨first, second⟩
      rw [wordsTo_append, wordsTo_append, first, second, wordsTo_tell, if_neg apart]
      rfl
    · intro other apart
      have same := moved.get? other
      rw [sessions_depart left] at same
      change (middle.moveAll [id] .lobby).sessions.get? other = _
      simpa [apart] using same
    · exact sessions_depart left ▸ moved.keeps

/-! ## Seats that are taken -/

section Starts

variable {middle begun : Server} {joined : Room}
  (sat : ∀ {other player}, other ≠ id → server.sessions.findPlayer? player = some other →
    player ∈ joined.players → server.lobby.room? number = some room ∧ player ∈ room.players)

include sat

/-- Whoever is in a room when its game begins goes with it into the game, and has been there before
unless it is the player who has just come in. -/
theorem promotes_of_begun (linked : server.Linked)
    (alike : ∀ other, other ≠ id → middle.sessions.get? other = server.sessions.get? other)
    (filed : room.id = number) (waiting : room.stage = .waiting)
    (promoted : ({ middle with lobby := begun.lobby } : Server).Moved
      (joined.players.filterMap middle.sessions.findPlayer?) (.game number) begun)
    (leads : ∀ player, middle.sessions.findPlayer? player = server.sessions.findPlayer? player)
    (here : begun.stateOf? number = some .playing) (apart : other ≠ id) :
    begun.sessions.get? other = server.sessions.get? other ∨
      server.Opens begun number ∧ server.Promotes begun other number := by
  have after := promoted.get? other
  change _ = (middle.sessions.get? other).map _ at after
  rw [alike other apart] at after
  split at after
  · next member =>
    rcases List.mem_filterMap.1 member with ⟨player, joins, leads'⟩
    rw [leads] at leads'
    rcases sat apart leads' joins with ⟨found, old⟩
    rcases linked.indexed.exists_identity leads' with ⟨session, nickname, live, carries⟩
    have placed := ((linked.fits live).placed
      (Session.player?_of_identity carries)).seated found old
    refine .inr ⟨⟨?_, here⟩, session, live, ?_, ?_⟩
    · rw [stateOf?, found, Option.map_some, Room.state, waiting]
      rfl
    · rw [placed, Room.place, waiting, filed]
    · rw [after, live, Option.map_some]
  · exact .inl (by simpa using after)

/-- Mail to a room goes to those who have been there before, and to the player who has just come. -/
theorem unheard_of_joined
    (leads : ∀ player, middle.sessions.findPlayer? player = server.sessions.findPlayer? player)
    (here : ∀ player, middle.lobby.Seats number player → player ∈ joined.players)
    (apart : other ≠ id) (absent : ∀ player, ¬server.Sits other player number) :
    ∀ player, ¬middle.Sits other player number := by
  rintro player ⟨leads', seats⟩
  rw [leads] at leads'
  rcases sat apart leads' (here player seats) with ⟨found, old⟩
  exact absent player ⟨leads', room, found, old⟩

end Starts

theorem effect_of_seating (linked : server.Linked) (seating : server.Seating id next) :
    ∃ mail, server.Effect next id (fun _ => False) mail ∧ Unsigned mail := by
  cases seating with
  | @intro identity number lobby room mail command leads named elsewhere here filed alike waiting
      free same before entered enters mail_eq started =>
    let joined : Room := { room with players := room.players ++ [identity.player] }
    let inside : Server := server.entered lobby id number
    have here' : inside.lobby.room? number = some joined := here
    have moved : ({ server with lobby } : Server).Moved [id] (.room number) inside :=
      moved_moveAll { server with lobby } [id] (.room number)
    have alike (other : ConnectionId) (apart : other ≠ id) :
        inside.sessions.get? other = server.sessions.get? other := by
      have same := moved.get? other
      simpa [apart] using same
    -- Whoever else is in the room then has been there before.
    have sat {other : ConnectionId} {player : PlayerId} (apart : other ≠ id)
        (leads' : server.sessions.findPlayer? player = some other)
        (member : player ∈ joined.players) :
        server.lobby.room? number = some room ∧ player ∈ room.players := by
      rcases List.mem_append.1 member with old | new
      · exact ⟨before player old, old⟩
      · rw [List.mem_singleton.1 new] at leads'
        exact (apart (Option.some.inj (leads'.symm.trans leads))).elim
    have greeted (other : ConnectionId) (apart : other ≠ id)
        (absent : ∀ player, ¬server.Sits other player number) : wordsTo mail other = [] := by
      have outside : ∀ player, ¬inside.Sits other player number := unheard_of_joined sat
        (fun _ => rfl) (fun player seats => (Lobby.seats_iff here').1 seats) apart absent
      rw [mail_eq, wordsTo_cons, if_neg (Ne.symm apart), List.nil_append]
      exact wordsTo_roomMail_of_absent outside _ _
    have greets : Unsigned mail := by
      rw [mail_eq]
      exact List.forall_mem_cons.2 ⟨rfl, unsigned_roomMail rfl _ _⟩
    rcases @exists_begun (inside.saying mail) number joined here' filed next started with
      ⟨rfl, _⟩ | ⟨game, begun, hand, _, _, _, _, rooms, promoted, said, rfl⟩
    · have touches : server.Touches (inside.saying mail) id number :=
        ⟨identity.player, .inr ⟨leads, joined, here', by simp [joined]⟩⟩
      exact ⟨mail, effect_of_room touches rfl elsewhere greeted alike moved.keeps, greets⟩
    · have begun_here : begun.lobby.room? number = some { joined with stage := .playing game } :=
        (rooms number).trans (if_pos rfl)
      let opening := begun.openingMail number joined.players hand
      have leads_alike (player : PlayerId) :
          begun.sessions.findPlayer? player = server.sessions.findPlayer? player :=
        congrArg (Directory.get? · player) promoted.byPlayer
      have touches : server.Touches (begun.saying opening) id number :=
        ⟨identity.player, .inr ⟨(leads_alike _).trans leads, _, begun_here, by simp [joined]⟩⟩
      have plays : begun.stateOf? number = some .playing := by
        rw [stateOf?, begun_here]
        rfl
      refine ⟨mail ++ opening, ⟨?_, ?_, ?_, ?_, fun _ => False.elim,
        moved.keeps.trans promoted.keeps⟩, greets.append (unsigned_openingMail _ _ _ _)⟩
      · change opening.reverse ++ begun.said = _
        rw [said, List.reverse_append, List.append_assoc]
        rfl
      · intro asked untouched
        have apart : asked ≠ number := by
          rintro rfl
          exact untouched touches
        exact (rooms asked).trans ((if_neg apart).trans (elsewhere asked apart))
      · intro other apart absent
        have outside (player : PlayerId) : ¬server.Sits other player number :=
          absent player number touches
        have opened := @wordsTo_openingMail_of_absent begun _ _ _ hand begun_here
          (unheard_of_joined sat leads_alike
            (fun player seats => (Lobby.seats_iff begun_here).1 seats) apart outside)
        rw [wordsTo_append, greeted other apart outside]
        exact opened
      · intro other apart _
        have goes := @promotes_of_begun server id other number room (inside.saying mail) begun
          joined sat linked alike filed waiting promoted (fun _ => rfl) plays apart
        exact goes.imp_right fun promotes => ⟨number, touches, promotes⟩

/-! ## Names -/

/-- Whose session goes when a nickname is taken: that of a sleeper who has it. -/
def Displaces (server : Server) (id : ConnectionId) (request : Request) (other : ConnectionId) :
    Prop :=
  ∃ nickname session holder, request = .name nickname ∧ server.sessions.get? id = some session ∧
    session.identity = none ∧ server.sessions.get? other = some holder ∧
    holder.nickname? = some nickname ∧ holder.isAwake = false

/-- A nickname that is asked for is refused, or is a new one, or goes over to the sender together
with the place of a sleeper. -/
inductive Naming (server : Server) (heir : Session) (nickname : String) : Server → Prop
  | refused {holder : Session} (live : server.sessions.get? holder.id = some holder)
      (taken : holder.nickname? = some nickname) (awake : holder.isAwake = true) :
      Naming server heir nickname (server.tell heir.id (.fail .name))
  | fresh (free : server.sessions.findName? nickname = none) :
      Naming server heir nickname
        (({ server with
          nextPlayer := server.nextPlayer + 1
          sessions := server.sessions.named heir { nickname, player := server.nextPlayer } } :
            Server).tell heir.id (.ok .name))
  | inherited {previous : Session} {identity : Identity}
      (live : server.sessions.get? previous.id = some previous)
      (carries : previous.identity = some identity) (same : identity.nickname = nickname)
      (asleep : previous.isAwake = false) (different : previous.id ≠ heir.id) :
      Naming server heir nickname
        ((((server.withHeir previous heir identity).close previous.id .replaced).tell heir.id
          (.ok .name)).tellWake heir.id)

theorem naming_of_name {session : Session} (linked : server.Linked)
    (live : server.sessions.get? id = some session) {nickname : String}
    (served : server.serveName id nickname = .ok next) :
    session.id = id ∧ session.identity = none ∧ server.Naming session nickname next := by
  have filed := linked.indexed.filed live
  subst filed
  simp only [serveName, live] at served
  split at served
  · cases served
  · next nowhere =>
    have unnamed := (linked.location_eq_unnamed_iff live).1 (not_not.1 nowhere)
    refine ⟨rfl, unnamed, ?_⟩
    cases taken : server.sessions.findName? nickname with
    | none =>
      let identity : Identity := { nickname, player := server.nextPlayer }
      have given := @Sessions.name_eq_ok _ _ identity taken live unnamed
      simp only [identity] at given
      simp only [taken, given] at served
      cases served
      exact .fresh taken
    | some owner =>
      rcases (linked.indexed.byName _ _).1 taken with ⟨holder, live', nick⟩
      rcases Option.map_eq_some_iff.1 nick with ⟨identity, carries, same⟩
      have filed := linked.indexed.filed live'
      subst filed
      simp only [taken, live', Option.any_some] at served
      split at served
      · next asleep =>
        have different : holder.id ≠ session.id := by
          intro equal
          rw [equal, live] at live'
          cases live'
          cases unnamed.symm.trans carries
        rw [Sessions.reclaim_eq_ok live' live carries unnamed] at served
        cases served
        exact .inherited live' carries same (by simpa using asleep) different
      · next awake =>
        cases served
        exact .refused live' nick (by simpa using awake)

theorem Effect.of_none {displaced : ConnectionId → Prop}
    (effect : server.Effect next id (fun _ => False) mail) (none : ∀ other, ¬displaced other) :
    server.Effect next id displaced mail :=
  ⟨effect.said, effect.rooms, effect.heard,
    fun other apart _ => effect.others other apart not_false,
    fun other gone => (none other gone).elim, effect.keeps⟩

/-- Nobody but the one session that has the nickname can go. -/
theorem Displaces.unique {nickname : String} {holder : Session}
    (displaces : server.Displaces id (.name nickname) other) (linked : server.Linked)
    (live : server.sessions.get? holder.id = some holder)
    (taken : holder.nickname? = some nickname) : other = holder.id ∧ holder.isAwake = false := by
  rcases displaces with ⟨_, _, holder', same, _, _, found, taken', asleep⟩
  cases same
  have first := (linked.indexed.byName nickname holder.id).2 ⟨holder, live, taken⟩
  have second := (linked.indexed.byName nickname other).2 ⟨holder', found, taken'⟩
  cases Option.some.inj (first.symm.trans second)
  cases Option.some.inj (live.symm.trans found)
  exact ⟨rfl, asleep⟩

theorem effect_of_inherited {previous heir : Session} (linked : server.Linked)
    (live : server.sessions.get? previous.id = some previous)
    (live' : server.sessions.get? heir.id = some heir) (carries : previous.identity = some identity)
    (unnamed : heir.identity = none) (asleep : previous.isAwake = false)
    (different : previous.id ≠ heir.id) :
    ∃ mail, server.Effect ((((server.withHeir previous heir identity).close previous.id
      .replaced).tell heir.id (.ok .name)).tellWake heir.id) heir.id
      (server.Displaces heir.id (.name identity.nickname)) mail := by
  have taken : previous.nickname? = some identity.nickname :=
    congrArg (Option.map Identity.nickname) carries
  have after := @Sessions.get?_inherited _ _ _ identity live' different
  let begun := ((server.withHeir previous heir identity).close previous.id .replaced).tell heir.id
    (.ok .name)
  have begun_linked : begun.Linked :=
    ((linked.inherited live live' carries unnamed different).closing _ _).tell _ _
  rw [tellWake_eq_saying]
  refine ⟨{ connection := heir.id, notice := .ok .name } :: begun.wakeMail heir.id,
    ?_, fun _ _ => rfl, ?_, ?_, ?_, Sessions.keeps_inherited live' different identity⟩
  · rw [List.reverse_cons, List.append_assoc]
    rfl
  · intro other apart absent
    rw [wordsTo_cons, if_neg (Ne.symm apart), List.nil_append, wakeMail]
    split
    · next seat =>
      have sits := (begun_linked.sits_of_seated? seat).1
      refine wordsTo_roomMail_of_absent ?_ _ _
      -- Everybody but the heir is led to by the same player as before.
      rintro player ⟨leads, seats⟩
      refine absent player _ ⟨_, .inr ⟨sits.leads, sits.seats⟩⟩ ⟨?_, seats⟩
      change (server.withHeir previous heir identity).sessions.findPlayer? player = _ at leads
      rw [findPlayer?_withHeir] at leads
      split at leads
      · exact (apart (Option.some.inj leads).symm).elim
      · exact leads
    · rfl
  · intro other apart stays
    have kept : other ≠ previous.id := by
      rintro rfl
      exact stays ⟨_, heir, previous, rfl, live', unnamed, live, taken, asleep⟩
    exact .inl ((after other).trans ((if_neg apart).trans (if_neg kept)))
  · intro other displaces
    have gone := (displaces.unique linked live taken).1
    subst gone
    exact (after previous.id).trans ((if_neg different).trans (if_pos rfl))

theorem effect_of_naming {heir : Session} {nickname : String} (linked : server.Linked)
    (live : server.sessions.get? heir.id = some heir) (unnamed : heir.identity = none)
    (naming : server.Naming heir nickname next) :
    ∃ mail, server.Effect next heir.id (server.Displaces heir.id (.name nickname)) mail := by
  cases naming with
  | refused live' taken awake =>
    refine ⟨_, effect_of_tell.of_none ?_⟩
    intro other displaces
    rw [(displaces.unique linked live' taken).2] at awake
    cases awake
  | fresh free =>
    have after := @Sessions.get?_named _ heir { nickname, player := server.nextPlayer } live
    refine ⟨[{ connection := heir.id, notice := .ok .name }], Effect.of_none
      ⟨rfl, fun _ _ => rfl, ?_, ?_, fun _ => False.elim, Sessions.keeps_named live _⟩ ?_⟩
    · intro other apart _
      rw [wordsTo_tell, if_neg apart]
    · intro other apart _
      exact .inl ((after other).trans (if_neg apart))
    · rintro other ⟨_, _, holder, same, _, _, found, taken, _⟩
      cases same
      have filed := (linked.indexed.byName nickname other).2 ⟨holder, found, taken⟩
      cases free.symm.trans filed
  | inherited live' carries same asleep different =>
    subst same
    exact effect_of_inherited linked live' live carries unnamed asleep different

/-! ## All requests -/

/-- Whatever is asked for, it reaches no further than the own room; and unless a nickname is taken
or a room is left, nobody hears anything about anybody's stay. -/
theorem effect_of_request {session : Session} {request : Request} (linked : server.Linked)
    (live : server.sessions.get? id = some session) (served : server.serve id request = .ok next) :
    ∃ mail, server.Effect next id (server.Displaces id request) mail ∧
      ((∀ nickname, request ≠ .name nickname) → request ≠ .leaveRoom → Unsigned mail) := by
  have quietly (other : ∀ nickname, request ≠ .name nickname) {mail : List Delivery}
      (effect : server.Effect next id (fun _ => False) mail) (unsigned : Unsigned mail) :
      ∃ mail, server.Effect next id (server.Displaces id request) mail ∧
        ((∀ nickname, request ≠ .name nickname) → request ≠ .leaveRoom → Unsigned mail) := by
    refine ⟨mail, effect.of_none ?_, fun _ _ => unsigned⟩
    rintro _ ⟨nickname, _, _, same, _⟩
    exact other nickname same
  have telling (other : ∀ nickname, request ≠ .name nickname) {notice : Notice}
      (unsigned : notice.IsSign = false) (same : next = server.tell id notice) :
      ∃ mail, server.Effect next id (server.Displaces id request) mail ∧
        ((∀ nickname, request ≠ .name nickname) → request ≠ .leaveRoom → Unsigned mail) := by
    subst same
    exact quietly other effect_of_tell (List.forall_mem_singleton.2 unsigned)
  cases request with
  | ok | pong =>
    cases served
    exact @quietly (by simp) [] ⟨rfl, fun _ _ => rfl, fun _ _ _ => rfl,
      fun _ _ _ => .inl rfl, fun _ => False.elim, .refl _⟩ (by simp [Unsigned])
  | name nickname =>
    rcases naming_of_name linked live served with ⟨rfl, unnamed, naming⟩
    rcases effect_of_naming linked live unnamed naming with ⟨mail, effect⟩
    exact ⟨mail, effect, fun other _ => (other nickname rfl).elim⟩
  | listRooms =>
    rcases exists_of_inLobby live served with ⟨_, _, _, answered⟩
    cases answered
    exact telling (by simp) rfl rfl
  | joinRoom number =>
    rcases seating_of_joinRoom linked live served with same | seating
    · exact telling (by simp) rfl same
    · rcases effect_of_seating linked seating with ⟨mail, effect, unsigned⟩
      exact quietly (by simp) effect unsigned
  | createRoom =>
    rcases seating_of_createRoom linked live served with same | seating
    · exact telling (by simp) rfl same
    · rcases effect_of_seating linked seating with ⟨mail, effect, unsigned⟩
      exact quietly (by simp) effect unsigned
  | leaveRoom =>
    rcases effect_of_leaveRoom linked live served with ⟨mail, effect⟩
    refine ⟨mail, effect.of_none ?_, fun _ other => (other rfl).elim⟩
    rintro _ ⟨nickname, _, _, same, _⟩
    cases same
  | roomInfo =>
    rcases exists_of_inRoom live served with ⟨_, number, _, _, answered⟩
    dsimp only at answered
    split at answered
    · cases answered
      exact telling (by simp) rfl rfl
    · cases answered
  | state =>
    change server.serveState id = .ok next at served
    simp only [serveState, live, checked] at served
    split at served
    · cases served
      exact telling (by simp) rfl rfl
    · cases served
  | play card =>
    rcases effect_of_play linked live served with ⟨mail, effect, unsigned⟩
    exact quietly (by simp) effect unsigned
  | draw =>
    rcases effect_of_draws linked (draws_of_serveDraw linked live served) with
      ⟨mail, effect, unsigned⟩
    exact quietly (by simp) effect unsigned
  | pass =>
    rcases effect_of_draws linked (draws_of_servePass linked live served) with
      ⟨mail, effect, unsigned⟩
    exact quietly (by simp) effect unsigned

/-! ## The end of a session -/

theorem keeps_terminate (server : Server) (id : ConnectionId) (reason : EndReason) :
    server.sessions.Keeps (server.terminate id reason).sessions := by
  rw [sessions_terminate]
  exact Sessions.keeps_close _ _

/-- The end of a session reaches no further than its room, and moves nobody else. -/
theorem effect_of_terminate (linked : server.Linked) (id : ConnectionId) (reason : EndReason) :
    (∃ mail, server.Effect (server.terminate id reason) id (fun _ => False) mail) ∧
      (∀ other, other ≠ id →
        (server.terminate id reason).sessions.get? other = server.sessions.get? other) := by
  have others (other : ConnectionId) (apart : other ≠ id) :
      (server.terminate id reason).sessions.get? other = server.sessions.get? other := by
    rw [sessions_terminate, Sessions.get?_close, if_neg apart]
  refine ⟨?_, others⟩
  cases seat : server.seated? id with
  | none =>
    have keeps := keeps_terminate server id reason
    rcases terminate_of_free seat reason with ⟨cause, ended⟩
    rw [ended] at others keeps ⊢
    exact ⟨[], rfl, fun _ _ => rfl, fun _ _ _ => rfl, fun other apart _ =>
      .inl (others other apart), fun _ => False.elim, keeps⟩
  | some seated =>
    rcases seated with ⟨identity, number⟩
    have sits := (linked.sits_of_seated? seat).1
    rcases exists_mourned linked seat reason with ⟨mail, later, departed⟩
    refine ⟨mail ++ later, effect_of_room ⟨_, .inl sits⟩ departed.said departed.without.elsewhere
      ?_ others (keeps_terminate _ _ _)⟩
    intro other apart absent
    rcases departed.silent fun me sat => (absent me sat).elim with ⟨first, second⟩
    rw [wordsTo_append, first, second]
    rfl

end Server

end CardTable
