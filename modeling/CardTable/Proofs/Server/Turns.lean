import CardTable.Proofs.Server.Departures

/-!
# Turns

What clients see of what is done on turn. Whoever acts is told first, then the others, and then
everybody hears whose turn it is, or that the game is over.
-/

namespace CardTable

namespace Deed

/-- What a word tells whoever has done the deed: that a card was accepted says which card is laid. -/
def hears : Deed → Word → Word
  | lay card, .said (.ok .play) => .laid card
  | _, word => word

/-- The card that is laid. -/
def card? : Deed → Option Card
  | lay card => some card
  | _ => none

variable {deed : Deed} {word : Word}

theorem hears_of_ne (plain : word ≠ .said (.ok .play)) : deed.hears word = word := by
  cases deed with
  | lay card =>
    rw [hears]
    intro _ _ answers
    exact plain answers
  | draw | skip => rfl

theorem notice_hears (deed : Deed) (word : Word) : (deed.hears word).notice = word.notice := by
  by_cases answers : word = .said (.ok .play)
  · rw [answers]
    cases deed <;> rfl
  · rw [hears_of_ne answers]

theorem map_hears {words : List Word} (plain : ∀ word ∈ words, word ≠ .said (.ok .play)) :
    words.map deed.hears = words :=
  (List.map_congr_left fun word member => hears_of_ne (plain word member)).trans (List.map_id _)

end Deed

namespace Server

variable {server : Server} {told : ConnectionId → Bool} {id : ConnectionId}
  {player : PlayerId} {identity : Identity} {number : RoomId} {room : Room} {deed : Deed}

/-- What is said of a deed, first to whoever has done it. -/
def deedMail (server : Server) (id : ConnectionId) (identity : Identity) (number : RoomId) :
    Deed → List Delivery
  | .lay card =>
    { connection := id, notice := .ok .play } ::
      server.roomMail number (.played identity.nickname card) (some identity.player)
  | .draw cards =>
    { connection := id, notice := .cards cards } ::
      server.roomMail number (.drew identity.nickname cards.length) (some identity.player)
  | .skip => server.roomMail number (.skip identity.nickname) none

theorem tellRoom_played (server : Server) (id : ConnectionId) (identity : Identity)
    (number : RoomId) (card : Card) :
    (server.tell id (.ok .play)).tellRoom number (.played identity.nickname card)
        (some identity.player) =
      server.saying (server.deedMail id identity number (.lay card)) := by
  rw [tellRoom_eq_saying, tell_eq_saying, saying_saying]
  rfl

theorem tellDraw_eq_saying (server : Server) (id : ConnectionId) (playing : Playing)
    (cards : List Card) : server.tellDraw id playing cards =
      server.saying (server.deedMail id playing.identity playing.room.id (.draw cards)) := by
  rw [tellDraw, tellRoom_eq_saying, tell_eq_saying, saying_saying]
  rfl

/-- A deed does not concern the roster. -/
theorem keepsRoster_deedMail (deed : Deed) :
    ∀ delivery ∈ server.deedMail id identity number deed, delivery.notice.KeepsRoster := by
  intro delivery member
  cases deed with
  | lay card | draw cards =>
    rcases List.mem_cons.1 member with rfl | others
    · trivial
    · rw [mem_roomMail others]
      trivial
  | skip =>
    rw [mem_roomMail member]
    trivial

/-- What a connection learns from some mail, if it has done the deed. -/
def learned (deed : Deed) (mail : List Delivery) (id : ConnectionId) : List Word :=
  (wordsTo mail id).map deed.hears

/-- Who acts learns it, and so do the others, each in their own words. -/
theorem learned_deedMail (indexed : server.sessions.Indexed) (hosts : server.Hosts number room)
    (leads : server.sessions.findPlayer? identity.player = some id) {asked : ConnectionId}
    {me : PlayerId} (leads' : server.sessions.findPlayer? me = some asked)
    (member : me ∈ room.players) (deed : Deed) :
    learned deed (server.deedMail id identity number deed) asked =
      [deed.word (identity.player = me) identity.nickname] := by
  have heard := fun notice except => wordsTo_roomMail indexed hosts leads' member notice except
  by_cases same : identity.player = me
  · subst same
    cases Option.some.inj (leads.symm.trans leads')
    cases deed <;> simp [learned, deedMail, wordsTo_cons, heard, Deed.hears, Deed.word]
  · have other : id ≠ asked := by
      rintro rfl
      exact same (indexed.eq_of_findPlayer? leads leads')
    cases deed <;> simp [learned, deedMail, wordsTo_cons, heard, Deed.hears, Deed.word, same, other]

theorem learned_deedMail_of_absent {asked : ConnectionId}
    (absent : ∀ player, ¬server.Sits asked player number)
    (sits : server.Sits id identity.player number) (deed : Deed) :
    learned deed (server.deedMail id identity number deed) asked = [] := by
  have unheard := fun notice except => wordsTo_roomMail_of_absent absent notice except
  have other : id ≠ asked := by
    rintro rfl
    exact absent _ sits
  cases deed <;> simp [learned, deedMail, wordsTo_cons, unheard, other]

/-- Mail that reports a deed to a room, with what is said there after it. -/
structure Reports (server : Server) (id : ConnectionId) (identity : Identity) (number : RoomId)
    (deed : Deed) (later mail : List Delivery) : Prop where
  mail_eq : mail = server.deedMail id identity number deed ++ later
  plain : ∀ delivery ∈ later, delivery.notice ≠ .ok .play
  within : ∀ asked, (∀ player, ¬server.Sits asked player number) → wordsTo later asked = []

namespace Reports

variable {next : Server} {later mail : List Delivery}
  (reports : server.Reports id identity number deed later mail)

include reports

theorem learned_append (asked : ConnectionId) : learned deed mail asked =
    learned deed (server.deedMail id identity number deed) asked ++ wordsTo later asked := by
  rw [reports.mail_eq, learned, wordsTo_append, List.map_append,
    Deed.map_hears (plain_wordsTo reports.plain asked)]
  rfl

/-- Nobody outside the room learns anything. -/
theorem silent (sits : server.Sits id identity.player number) {asked : ConnectionId}
    (absent : ∀ player, ¬server.Sits asked player number) : learned deed mail asked = [] := by
  rw [reports.learned_append, learned_deedMail_of_absent absent sits, reports.within asked absent]
  rfl

/-- Only whoever has laid a card learns which one it was. -/
theorem learned_eq (asked : ConnectionId) :
    ∃ words, learned deed mail asked = (if asked = id then deed.card?.toList.map .laid else []) ++
      words ∧ (∀ word ∈ words, word ≠ .said (.ok .play)) ∧ words.filterMap Word.card? = [] := by
  have others (notice : Notice) (plain : notice ≠ .ok .play) (except : Option PlayerId) :
      ∀ delivery ∈ server.roomMail number notice except ++ later, delivery.notice ≠ .ok .play :=
    List.forall_mem_append.2 ⟨plain_roomMail plain _ _, reports.plain⟩
  -- Only a laid card is answered in a way that tells nobody else which card it was.
  have answerless (none : deed.card? = none) (plain : ∀ delivery ∈ mail, delivery.notice ≠ .ok .play) :
      ∃ words, learned deed mail asked = (if asked = id then deed.card?.toList.map .laid else []) ++
        words ∧ (∀ word ∈ words, word ≠ .said (.ok .play)) ∧ words.filterMap Word.card? = [] := by
    refine ⟨wordsTo mail asked, ?_, plain_wordsTo plain asked, card?_wordsTo _ _⟩
    rw [learned, Deed.map_hears (plain_wordsTo plain asked), none]
    simp
  cases deed with
  | lay card =>
    have rest := others (.played identity.nickname card) (by simp) (some identity.player)
    refine ⟨_, ?_, plain_wordsTo rest asked, card?_wordsTo _ _⟩
    rw [reports.mail_eq, deedMail, List.cons_append, learned, wordsTo_cons, List.map_append,
      Deed.map_hears (plain_wordsTo rest asked)]
    congr 1
    by_cases same : id = asked
    · subst same
      simp [Deed.hears, Deed.card?]
    · simp [same, Ne.symm same]
  | draw cards =>
    apply answerless rfl
    rw [reports.mail_eq]
    exact List.forall_mem_cons.2 ⟨by simp, others _ (by simp) _⟩
  | skip =>
    apply answerless rfl
    rw [reports.mail_eq]
    exact others _ (by simp) _

theorem answered (shown : server.Shown told next told (learned deed mail))
    (said : next.said = mail.reverse ++ server.said)
    (keeps : server.sessions.Keeps next.sessions) :
    server.Answered told next fun asked => if asked = id then deed.card?.toList else [] := by
  refine ⟨?_, keeps⟩
  intro heard plays tracks
  have spoken : server.Spoken next (learned deed mail) := by
    refine ⟨?_, ?_⟩
    · intro asked
      have lines : next.lines asked = (server.saying mail).lines asked := by
        simp only [lines, Server.mail, said, saying]
      rw [lines, lines_saying, learned, List.map_map]
      simp only [Function.comp_def, Deed.notice_hears]
    · intro asked word member
      rcases reports.learned_eq asked with ⟨words, split, plain, _⟩
      rw [split] at member
      rcases List.mem_append.1 member with own | other
      · split at own
        · rcases List.mem_map.1 own with ⟨card, _, rfl⟩
          simp
        · cases own
      · exact plain word other
  have cards : ∀ asked, (learned deed mail asked).filterMap Word.card? =
      if asked = id then deed.card?.toList else [] := by
    intro asked
    rcases reports.learned_eq asked with ⟨words, split, _, none⟩
    rw [split, List.filterMap_append, none, List.append_nil]
    split
    · cases deed <;> rfl
    · rfl
  simpa [cards] using tracks.step shown spoken

end Reports

/-! ## The game goes on -/

section Acts

variable {game after : Game} {talk mail : List Delivery}

theorem room?_of_stage (linked : server.Linked) (found : server.lobby.room? number = some room)
    (stage : Stage) (asked : RoomId) :
    (server.lobby.put { room with stage }).room? asked =
      if asked = number then some { room with stage } else server.lobby.room? asked := by
  have filed : room.id = number := linked.orderly.filed found
  exact @Lobby.room?_put_of_room? _ _ _ { room with stage } found filed asked

/-- What is done is said to the same players whether the game has been put back or not. -/
theorem deedMail_putGame (linked : server.Linked) (found : server.lobby.room? number = some room)
    (after : Game) (deed : Deed) : (server.putGame room after).deedMail id identity number deed =
      server.deedMail id identity number deed := by
  have here : (server.putGame room after).lobby.room? number =
      some { room with stage := .playing after } :=
    (room?_of_stage linked found (.playing after) number).trans (if_pos rfl)
  have mail (notice : Notice) (except : Option PlayerId) :
      (server.putGame room after).roomMail number notice except =
        server.roomMail number notice except := by
    rw [roomMail, roomMail, audience, audience, here, found]
    rfl
  cases deed <;> simp only [deedMail, mail]

theorem wordsTo_talk_of_absent {asked : ConnectionId}
    (idle : ∀ delivery ∈ talk, delivery.connection = id ∧ delivery.notice.IsTalk)
    (sits : server.Sits id player number) (absent : ∀ player, ¬server.Sits asked player number) :
    wordsTo talk asked = [] := by
  rw [wordsTo, List.filter_eq_nil_iff.2, List.map_nil]
  intro delivery member
  rw [(idle delivery member).1, decide_eq_true_eq]
  rintro rfl
  exact absent _ sits

/-- Everybody in the room sees what is done and whose turn it is then. -/
theorem answered_act (linked : server.Linked) (sits : server.Sits id identity.player number)
    (named : server.nicknameOf? identity.player = some identity.nickname)
    (found : server.lobby.room? number = some room) (playing : room.stage = .playing game)
    (done : deed.Done game identity.player after) (linked' : (server.putGame room after).Linked)
    (idle : ∀ delivery ∈ talk, delivery.connection = id ∧ delivery.notice.IsTalk)
    (mail_eq : mail = server.deedMail id identity number deed ++
      (talk ++ (server.putGame room after).turnMail number)) :
    server.Answered told ((server.putGame room after).saying mail)
      fun asked => if asked = id then deed.card?.toList else [] := by
  let acted := server.putGame room after
  have rooms := room?_of_stage linked found (.playing after)
  have here : acted.lobby.room? number = some { room with stage := .playing after } :=
    (rooms number).trans (if_pos rfl)
  have people : server.SamePeople acted := samePeople_of_eq rfl
  have reports : server.Reports id identity number deed (talk ++ acted.turnMail number) mail := by
    refine ⟨mail_eq, ?_, ?_⟩
    · exact List.forall_mem_append.2
        ⟨fun delivery member => (idle delivery member).2.ne_ok_play, plain_turnMail _ _⟩
    · intro asked absent
      have outside : ∀ player, ¬acted.Sits asked player number :=
        fun player sat => absent player ((sits_of_stage found people here).1 sat)
      rw [wordsTo_append, wordsTo_talk_of_absent idle sits absent,
        wordsTo_turnMail_of_absent outside]
      rfl
  refine reports.answered (shown_of_stage linked found (samePeople_of_eq rfl) rooms
    (fun asked absent => reports.silent sits absent) ?_) rfl (.refl _)
  intro asked me sat member
  rcases wordsTo_turnMail linked'.indexed (linked'.hosts here) told rfl sat.leads member with
    ⟨turn, next, last⟩
  rcases sits.exists_guest linked told named with ⟨actor, seen, same, nicknames⟩
  have scenes := scene_of_stage found people here told
  have calm : ∀ word ∈ wordsTo talk asked, word.IsTalk :=
    forall_mem_wordsTo (fun delivery member => (idle delivery member).2) asked
  have on : (server.scene told number).game = some game := by
    rw [game_scene found, playing]
    rfl
  rw [reports.learned_append, learned_deedMail linked.indexed (linked.hosts found) sits.leads
    sat.leads member, wordsTo_append, last, ← nicknames, ← same]
  rw [← same] at done
  exact @Sees.act _ _ game _ _ _ _ _ (distinct_scene linked.indexed told number) on seen done calm
    (scenes ▸ next)

/-- The others hear of a deed, and then everybody hears whose turn it is. -/
theorem answered_tellTurn (linked : server.Linked)
    (sits : server.Sits id identity.player number)
    (named : server.nicknameOf? identity.player = some identity.nickname)
    (found : server.lobby.room? number = some room) (playing : room.stage = .playing game)
    (done : deed.Done game identity.player after) (linked' : (server.putGame room after).Linked)
    (idle : ∀ delivery ∈ talk, delivery.connection = id ∧ delivery.notice.IsTalk) :
    server.Answered told (((server.putGame room after).saying
        ((server.putGame room after).deedMail id identity number deed ++ talk)).tellTurn number)
      fun asked => if asked = id then deed.card?.toList else [] := by
  rw [tellTurn_eq_saying, saying_saying, deedMail_putGame linked found, List.append_assoc]
  exact answered_act linked sits named found playing done linked' idle rfl

/-! ## The game is over -/

/-- Everybody in the room hears that the game is over. -/
theorem answered_end (linked : server.Linked) (sits : server.Sits id identity.player number)
    (found : server.lobby.room? number = some room) {later : List Delivery}
    (idle : ∀ delivery ∈ later, delivery.notice.IsTalk)
    (within : ∀ asked, (∀ player, ¬server.Sits asked player number) → wordsTo later asked = [])
    (mail_eq : mail = server.deedMail id identity number deed ++ later) :
    server.Answered told (({ server with
        lobby := server.lobby.put { room with stage := .finished after } } : Server).saying mail)
      fun asked => if asked = id then deed.card?.toList else [] := by
  have reports : server.Reports id identity number deed later mail :=
    ⟨mail_eq, fun delivery member => (idle delivery member).ne_ok_play, within⟩
  have calm : ∀ delivery ∈ mail, delivery.notice.KeepsRoster := by
    rw [mail_eq]
    exact List.forall_mem_append.2
      ⟨keepsRoster_deedMail deed, fun delivery member => (idle delivery member).keepsRoster⟩
  refine reports.answered (shown_of_stage linked found (samePeople_of_eq rfl)
    (room?_of_stage linked found (.finished after))
    (fun asked absent => reports.silent sits absent) ?_) rfl (.refl _)
  intro asked me sat member
  refine .close ?_
  intro word heard
  rcases List.mem_map.1 heard with ⟨earlier, heard', rfl⟩
  rw [Deed.notice_hears]
  exact @forall_mem_wordsTo mail (fun word => word.notice.KeepsRoster) calm asked earlier heard'

/-- The others hear of a deed, and then everybody hears that the game is over. -/
theorem answered_finishGame (linked : server.Linked)
    (sits : server.Sits id identity.player number)
    (found : server.lobby.room? number = some room) (ended : after.isFinished = true)
    (idle : ∀ delivery ∈ talk, delivery.connection = id ∧ delivery.notice.IsTalk)
    (ending : Ending) :
    server.Answered told (((server.putGame room after).saying
        ((server.putGame room after).deedMail id identity number deed ++ talk)).finishGame number
          ending)
      fun asked => if asked = id then deed.card?.toList else [] := by
  let closed : Room := { room with stage := .finished after }
  have here : (server.putGame room after).lobby.room? number =
      some { room with stage := .playing after } :=
    (room?_of_stage linked found (.playing after) number).trans (if_pos rfl)
  have concluded : ({ room with stage := .playing after } : Room).conclude.2 = closed := by
    simp [Room.conclude, ended, closed]
  have twice : (server.putGame room after).lobby.put closed = server.lobby.put closed :=
    Lobby.put_put rfl
  rw [finishGame_eq_saying here, concluded, twice, deedMail_putGame linked found,
    List.append_assoc]
  refine answered_end linked sits found ?_ ?_ rfl
  · intro delivery member
    rcases List.mem_append.1 member with first | last
    · exact (idle delivery first).2
    · exact talk_closingMail last
  · intro asked absent
    have here' : (server.putRoom closed).lobby.room? number = some closed :=
      (room?_of_stage linked found (.finished after) number).trans (if_pos rfl)
    have people : server.SamePeople (server.putRoom closed) := samePeople_of_eq rfl
    have outside : ∀ player, ¬(server.putRoom closed).Sits asked player number :=
      fun player sat => absent player ((sits_of_stage found people here').1 sat)
    rw [wordsTo_append, wordsTo_talk_of_absent idle sits absent, List.nil_append]
    exact wordsTo_closingMail_of_absent here' outside

end Acts

end Server

end CardTable
