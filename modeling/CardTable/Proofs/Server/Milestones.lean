import CardTable.Proofs.Server.Answers

/-!
# Milestones

Some lines open a game for a player or close it: that it starts, the hand that is dealt, the verdict
and the ranking. This file says which of them there are among the lines that are new in a step, and
among those that a room hears when its game ends.
-/

namespace CardTable

namespace Notice

/-- Lines that open a game for a player or close it. -/
def IsMilestone : Notice → Bool
  | gameStart | hand _ | win | lose | leaderboard _ => true
  | _ => false

end Notice

/-- The milestones among some lines. -/
def milestones (lines : List Notice) : List Notice :=
  lines.filter Notice.IsMilestone

namespace Server

variable {server next : Server} {id : ConnectionId} {player : PlayerId} {identity : Identity}
  {number : RoomId} {room : Room}

/-! ## News -/

/-- The lines for a connection that are new in a step. -/
def news (server next : Server) (id : ConnectionId) : List Notice :=
  (next.lines id).drop (server.lines id).length

theorem lines_of_said {mail : List Delivery} (said : next.said = mail.reverse ++ server.said)
    (id : ConnectionId) :
    next.lines id = server.lines id ++ (wordsTo mail id).map Word.notice := by
  rw [← lines_saying]
  simp only [Server.lines, Server.mail, said, saying]

theorem news_of_said {mail : List Delivery} (said : next.said = mail.reverse ++ server.said)
    (id : ConnectionId) : server.news next id = (wordsTo mail id).map Word.notice := by
  rw [news, lines_of_said said, List.drop_left]

/-- The milestones for a connection among some mail. -/
def milestonesIn (mail : List Delivery) (id : ConnectionId) : List Notice :=
  milestones ((wordsTo mail id).map Word.notice)

/-- Mail without milestones. -/
def Plain (mail : List Delivery) : Prop :=
  ∀ delivery ∈ mail, delivery.notice.IsMilestone = false

section Plain

variable {mail later : List Delivery}

theorem Plain.append (plain : Plain mail) (plain' : Plain later) : Plain (mail ++ later) :=
  List.forall_mem_append.2 ⟨plain, plain'⟩

theorem plain_roomMail_of {notice : Notice} (plain : notice.IsMilestone = false) (number : RoomId)
    (except : Option PlayerId) : Plain (server.roomMail number notice except) := by
  intro delivery member
  rwa [mem_roomMail member]

theorem plain_turn (server : Server) (number : RoomId) : Plain (server.turnMail number) := by
  intro delivery member
  rcases mem_turnMail member with ⟨turn, notice⟩
  rw [notice]
  rfl

theorem plain_wakeMail (id : ConnectionId) : Plain (server.wakeMail id) := by
  unfold wakeMail
  split
  · exact plain_roomMail_of rfl _ _
  · simp [Plain]

theorem plain_deedMail (deed : Deed) : Plain (server.deedMail id identity number deed) := by
  cases deed with
  | lay card | draw cards => exact List.forall_mem_cons.2 ⟨rfl, plain_roomMail_of rfl _ _⟩
  | skip => exact plain_roomMail_of rfl _ _

theorem milestonesIn_append (mail later : List Delivery) (id : ConnectionId) :
    milestonesIn (mail ++ later) id = milestonesIn mail id ++ milestonesIn later id := by
  simp [milestonesIn, milestones]

theorem Plain.milestonesIn (plain : Plain mail) (id : ConnectionId) :
    milestonesIn mail id = [] := by
  apply List.filter_eq_nil_iff.2
  intro notice member
  rcases List.mem_map.1 member with ⟨word, heard, rfl⟩
  have silent := @forall_mem_wordsTo mail (fun word => word.notice.IsMilestone = false) plain id
    word heard
  simp [silent]

theorem milestonesIn_of_silent (silent : wordsTo mail id = []) : milestonesIn mail id = [] := by
  rw [Server.milestonesIn, silent]
  rfl

end Plain

theorem milestonesIn_winMail (emptied : Bool) (asked : ConnectionId) :
    milestonesIn (winMail id emptied) asked =
      if asked = id ∧ emptied = true then [.win] else [] := by
  unfold winMail
  cases emptied with
  | false => simp [milestonesIn, milestones]
  | true =>
    rw [if_pos rfl, milestonesIn, wordsTo_cons]
    by_cases own : asked = id
    · simp [own, milestones, Notice.IsMilestone, Word.notice]
    · simp [own, Ne.symm own, milestones]

/-- Who holds cards when a game ends hears the verdict, and then everybody hears the ranking. -/
theorem milestonesIn_closingMail {game : Game} {ending : Ending}
    (indexed : server.sessions.Indexed) (hosts : server.Hosts number room)
    (known : room.game? = some game) (leads : server.sessions.findPlayer? player = some id)
    (member : player ∈ room.players) :
    milestonesIn (server.closingMail number room ending) id =
      (if game.holdsCards player then [ending.verdict] else []) ++
        [.leaderboard (game.standings.filterMap server.nicknameOf?)] := by
  have ranking := wordsTo_roomMail indexed hosts leads member
    (.leaderboard (game.standings.filterMap server.nicknameOf?)) none
  rw [if_neg (by simp)] at ranking
  rw [closingMail, known, milestonesIn_append, milestonesIn, milestonesIn, ranking]
  congr 1
  split
  · next held =>
    have holder : player ∈ room.players.filter fun player => (game.hand? player).any (· ≠ []) :=
      List.mem_filter.2 ⟨member, held⟩
    rw [wordsTo_mailTo indexed (hosts.sound.distinct.filter _) leads holder fun _ => ending.verdict]
    cases ending <;> rfl
  · next empty =>
    rw [wordsTo_mailTo_of_absent, List.map_nil]
    · rfl
    · intro other holder leads'
      rw [indexed.eq_of_findPlayer? leads' leads] at holder
      exact empty (List.mem_filter.1 holder).2

end Server

end CardTable
