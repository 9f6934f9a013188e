import CardTable.Proofs.Server.Knowledge
import CardTable.Proofs.Server.Verdicts

/-!
# Every game starts once and ends once

A logbook is kept while a server runs. It has, of every player, what has been said since the player
took a seat, and of every room how often its game has been started and ended since the room was
opened. From the start on, step by step, the logbook of a room that waits is empty, in one that
plays a game has been started once, and in one that is finished it has been ended once as well; and
everybody in the room has heard just that.
-/

namespace CardTable.Server

variable {server next : Server} {id : ConnectionId} {player me : PlayerId} {number : RoomId}
  {config : ServerConfig} {deals : List Deal}

/-- Whether a player has a seat. -/
def IsSeated (server : Server) (player : PlayerId) : Bool :=
  ((server.sessions.findPlayer? player).bind server.seated?).isSome

theorem isSeated_iff (linked : server.Linked) :
    server.IsSeated player = true ↔ ∃ number, server.lobby.Seats number player := by
  constructor
  · intro seated
    rcases Option.isSome_iff_exists.1 seated with ⟨⟨identity, number⟩, seated⟩
    rcases Option.bind_eq_some_iff.1 seated with ⟨id, leads, seat⟩
    have sits := (linked.sits_of_seated? seat).1
    exact ⟨number, linked.indexed.eq_of_findPlayer? leads sits.leads ▸ sits.seats⟩
  · rintro ⟨number, seats⟩
    rcases linked.led seats with ⟨id, leads⟩
    have seated : server.seated? id ≠ none :=
      fun missing => linked.not_sits_of_seated? missing player number ⟨leads, seats⟩
    rw [IsSeated, leads]
    exact Option.isSome_iff_ne_none.2 seated

/-- A server, what has been said to every player in the present seat, and how often the game of
every room has been started and ended. -/
structure Logbook where
  server : Server
  heard : PlayerId → List Notice
  openings : RoomId → Nat
  endings : RoomId → Nat

namespace Logbook

variable {book : Logbook} {room : Room}

def start (config : ServerConfig) (deals : List Deal) : Logbook where
  server := .start config.validated deals
  heard _ := []
  openings _ := 0
  endings _ := 0

/-- The logbook after a step. For a player who has had no seat before the step, or a room that has
not been there, it is begun anew. -/
def after (book : Logbook) (next : Server) : Logbook where
  server := next
  heard player :=
    (if book.server.IsSeated player then book.heard player else []) ++
      (next.sessions.findPlayer? player).elim [] (book.server.news next)
  openings number :=
    (if (book.server.lobby.room? number).isSome then book.openings number else 0) +
      if book.server.Opens next number then 1 else 0
  endings number :=
    (if (book.server.lobby.room? number).isSome then book.endings number else 0) +
      if book.server.Closes next number then 1 else 0

/-- A logbook that has been kept from the start on. -/
inductive Kept (config : ServerConfig) (deals : List Deal) : Logbook → Prop
  | start : Kept config deals (start config deals)
  | step {book : Logbook} {next : Server} (kept : Kept config deals book)
      (step : book.server.Step next) : Kept config deals (book.after next)

/-- How often a game has been started in a room by the time it is in some state. -/
def openingsBy : RoomState → Nat
  | .waiting => 0
  | .playing | .finished => 1

/-- How often a game has been ended in a room by the time it is in some state. -/
def endingsBy : RoomState → Nat
  | .waiting | .playing => 0
  | .finished => 1

/-- What the players of a room have heard of its game by the time it is at some stage. -/
inductive Told (heard : PlayerId → List Notice) (players : List PlayerId) : Stage → Prop
  | waiting (nothing : ∀ me ∈ players, milestones (heard me) = []) : Told heard players .waiting
  | playing {game : Game} (opening : ∀ me ∈ players, ∃ dealt, milestones (heard me) =
        [.gameStart, .hand dealt] ++ if game.holdsCards me then [] else [.win]) :
      Told heard players (.playing game)
  | finished {game : Game} (ending : Ending) (names : List String)
      (whole : ∀ me ∈ players, ∃ dealt, milestones (heard me) =
        [.gameStart, .hand dealt, if game.holdsCards me then ending.verdict else .win,
          .leaderboard names]) :
      Told heard players (.finished game)

/-- What a logbook tells of a room. -/
structure Tells (book : Logbook) (number : RoomId) (room : Room) : Prop where
  openings : book.openings number = openingsBy room.state
  endings : book.endings number = endingsBy room.state
  told : Told book.heard room.players room.stage

theorem Told.of_subset {heard later : PlayerId → List Notice} {players rest : List PlayerId}
    {stage : Stage} (told : Told heard players stage)
    (same : ∀ me ∈ rest, me ∈ players ∧ milestones (later me) = milestones (heard me)) :
    Told later rest stage := by
  cases told with
  | waiting nothing =>
    exact .waiting fun me member => (same me member).2 ▸ nothing me (same me member).1
  | playing opening =>
    exact .playing fun me member => (same me member).2 ▸ opening me (same me member).1
  | finished ending names whole =>
    exact .finished ending names fun me member => (same me member).2 ▸ whole me (same me member).1

/-! ## One step -/

theorem milestones_after (sits : next.Sits id me number) :
    milestones ((book.after next).heard me) =
      (if book.server.IsSeated me then milestones (book.heard me) else []) ++
        milestones (book.server.news next id) := by
  simp only [after, sits.leads, Option.elim_some, milestones, List.filter_append]
  split <;> rfl

theorem milestones_of_stays (linked : book.server.Linked)
    (seats : book.server.lobby.Seats number me) (sits : next.Sits id me number) :
    milestones ((book.after next).heard me) =
      milestones (book.heard me) ++ milestones (book.server.news next id) := by
  rw [milestones_after sits, if_pos ((isSeated_iff linked).2 ⟨number, seats⟩)]

/-- Nobody who comes to a room or has waited there has heard of a game before. -/
theorem milestones_of_waits (linked : book.server.Linked) (linked' : next.Linked)
    (elsewhere : ∀ asked, asked ≠ number →
      next.lobby.room? asked = book.server.lobby.room? asked)
    (tells : ∀ room, book.server.lobby.room? number = some room → book.Tells number room)
    (waiting : ∀ room, book.server.lobby.room? number = some room → room.stage = .waiting)
    (sits : next.Sits id me number) :
    milestones ((book.after next).heard me) = milestones (book.server.news next id) := by
  rw [milestones_after sits]
  split
  · next seated =>
    rcases (isSeated_iff linked).1 seated with ⟨asked, room, found, member⟩
    have here : asked = number := by
      by_contra apart
      have seats' : next.lobby.Seats asked me := ⟨room, (elsewhere asked apart).trans found, member⟩
      exact apart (linked'.alone seats' sits.seats)
    subst here
    have told := (tells room found).told
    rw [waiting room found] at told
    cases told with
    | waiting nothing => rw [nothing me member, List.nil_append]
  · rfl

/-- A room's starts and ends are counted as its state goes on. -/
theorem Tells.counts {later : Room} (tells : book.Tells number room)
    (found : book.server.lobby.room? number = some room)
    (found' : next.lobby.room? number = some later)
    (onward : later.state = room.state ∨ room.state.MayBecome later.state) :
    (book.after next).openings number = openingsBy later.state ∧
      (book.after next).endings number = endingsBy later.state := by
  have opened : (book.after next).openings number = openingsBy room.state +
      if room.state = .waiting ∧ later.state = .playing then 1 else 0 := by
    simp [after, Opens, stateOf?, found, found', tells.openings]
  have ended : (book.after next).endings number = endingsBy room.state +
      if room.state = .playing ∧ later.state = .finished then 1 else 0 := by
    simp [after, Closes, stateOf?, found, found', tells.endings]
  rw [opened, ended]
  generalize room.state = first at onward
  generalize later.state = second at onward
  rcases onward with rfl | follows
  · cases second <;> exact ⟨rfl, rfl⟩
  · cases first <;> cases follows <;> exact ⟨rfl, rfl⟩

/-- Whoever stays in a room that plays has heard the start of the game, and then what is new. -/
theorem Tells.opening {game : Game} (tells : book.Tells number room)
    (linked : book.server.Linked) (found : book.server.lobby.room? number = some room)
    (playing : room.stage = .playing game) (stays : me ∈ room.players)
    (sits : next.Sits id me number) :
    ∃ dealt, milestones ((book.after next).heard me) =
      [.gameStart, .hand dealt] ++ ((if game.holdsCards me then [] else [.win]) ++
        milestones (book.server.news next id)) := by
  have told := tells.told
  rw [playing] at told
  cases told with
  | playing opening =>
    rcases opening me stays with ⟨dealt, earlier⟩
    refine ⟨dealt, ?_⟩
    rw [milestones_of_stays linked ⟨room, found, stays⟩ sits, earlier, List.append_assoc]

/-- Nothing new is told of a room in which nothing happens but that somebody leaves. -/
theorem Tells.of_kept {later : Room} (tells : book.Tells number room)
    (linked : book.server.Linked) (linked' : next.Linked)
    (found : book.server.lobby.room? number = some room)
    (found' : next.lobby.room? number = some later) (same : later.stage = room.stage)
    (among : later.players ⊆ room.players)
    (quiet : ∀ id me, next.Sits id me number → milestones (book.server.news next id) = []) :
    (book.after next).Tells number later := by
  rcases tells.counts found found' (.inl (congrArg Stage.state same)) with ⟨openings, endings⟩
  refine ⟨openings, endings, ?_⟩
  rw [same]
  refine tells.told.of_subset fun me member => ⟨among member, ?_⟩
  rcases linked'.led ⟨later, found', member⟩ with ⟨id, leads⟩
  have sits : next.Sits id me number := ⟨leads, later, found', member⟩
  rw [milestones_of_stays linked ⟨room, found, among member⟩ sits, quiet id me sits,
    List.append_nil]

section Joins

variable (linked : book.server.Linked) (linked' : next.Linked)
  (elsewhere : ∀ asked, asked ≠ number → next.lobby.room? asked = book.server.lobby.room? asked)

include linked linked' elsewhere

theorem tells_of_enters {later : Room} (enters : book.server.Enters next number later)
    (tells : ∀ room, book.server.lobby.room? number = some room → book.Tells number room) :
    (book.after next).Tells number later := by
  rcases enters with ⟨before, here, waiting, free, plain⟩
  have waits : later.state = .waiting := congrArg Stage.state waiting
  have counts : (book.after next).openings number = openingsBy later.state ∧
      (book.after next).endings number = endingsBy later.state := by
    cases found : book.server.lobby.room? number with
    | none => simp [after, Opens, Closes, stateOf?, found, waits, openingsBy, endingsBy]
    | some room =>
      have waited : room.state = .waiting := congrArg Stage.state (before room found).1
      exact (tells room found).counts found here (.inl (waits.trans waited.symm))
  refine ⟨counts.1, counts.2, ?_⟩
  rw [waiting]
  refine .waiting fun me member => ?_
  rcases linked'.led ⟨later, here, member⟩ with ⟨id, leads⟩
  rw [milestones_of_waits linked linked' elsewhere tells (fun room found => (before room found).1)
    ⟨leads, later, here, member⟩, plain]

theorem tells_of_starts {player : PlayerId} {game : Game} {chance : Deal}
    (starts : book.server.Starts next number room player game chance)
    (tells : book.Tells number room) : (book.after next).Tells number
      { room with players := room.players ++ [player], stage := .playing game } := by
  rcases starts with ⟨found, waiting, free, full, here, dealt, heard⟩
  have sound := linked'.orderly.sound here
  have only {earlier : Room} (found' : book.server.lobby.room? number = some earlier) :
      earlier = room := Option.some.inj (found'.symm.trans found)
  have follows : room.state.MayBecome .playing := by
    rw [Room.state, waiting]
    rfl
  rcases Game.ranked_of_deal sound.distinct dealt with ⟨ranked, nobody⟩
  rcases tells.counts found here (.inr follows) with ⟨openings, endings⟩
  refine ⟨openings, endings, .playing fun me member => ?_⟩
  rcases linked'.led ⟨_, here, member⟩ with ⟨id, leads⟩
  have sits : next.Sits id me number := ⟨leads, _, here, member⟩
  have holds : game.holdsCards me = true := by
    refine (ranked.holds_iff me ?_).2 (by simp [nobody])
    exact (sound.of_playing rfl).1 ▸ member
  rcases heard sits with ⟨welcome, hand, turn, welcomes, own, _, lines⟩
  refine ⟨hand, ?_⟩
  rw [milestones_of_waits linked linked' elsewhere (fun _ found' => only found' ▸ tells)
    (fun _ found' => only found' ▸ waiting) sits, lines, if_pos holds]
  rcases welcomes with ⟨_, rfl⟩ | ⟨_, rfl⟩ <;> rfl

end Joins

/-- What a player has heard of a game who has perhaps just emptied a hand. -/
theorem wins_of_attempt {game later : Game} {move : Move} {me : PlayerId} (ranked : game.Ranked)
    (ready : game.Ready) (accepted : game.attempt move = .ok later) (member : me ∈ later.players) :
    (if game.holdsCards me then [] else [Notice.win]) ++
        (if game.Empties later me then [.win] else []) =
      if later.holdsCards me then [] else [.win] := by
  have kept := ranked.holdsCards_of_attempt ready accepted member
  cases held : game.holdsCards me <;> cases holds : later.holdsCards me <;>
    simp_all [Game.Empties]

theorem tells_of_moves {players : List PlayerId} {game later : Game} {move : Move}
    (moves : book.server.Moves next number room players game later move)
    (linked : book.server.Linked) (linked' : next.Linked) (regular : room.Regular)
    (tells : book.Tells number room) :
    (book.after next).Tells number { room with players, stage := .playing later } := by
  rcases moves with ⟨found, playing, accepted, here, heard⟩
  have ranked := regular.of_playing playing
  rcases (linked.orderly.sound found).of_playing playing with ⟨seated, _, ready⟩
  have stay := ((linked'.orderly.sound here).of_playing rfl).1
  have among := (Game.sublist_players_of_attempt ranked.distinct accepted).subset
  rcases tells.counts found here (.inl (congrArg Stage.state playing).symm) with
    ⟨openings, endings⟩
  refine ⟨openings, endings, .playing fun me member => ?_⟩
  rcases linked'.led ⟨_, here, member⟩ with ⟨id, leads⟩
  have sits : next.Sits id me number := ⟨leads, _, here, member⟩
  have member' : me ∈ later.players := stay ▸ member
  rcases tells.opening linked found playing (seated ▸ among member') sits with ⟨dealt, lines⟩
  refine ⟨dealt, ?_⟩
  rw [lines, heard sits, wins_of_attempt ranked ready accepted member']

theorem tells_of_finishes {players : List PlayerId} {game later : Game} {move : Move}
    {ending : Ending}
    (finishes : book.server.Finishes next number room players game later move ending)
    (linked : book.server.Linked) (linked' : next.Linked) (regular : room.Regular)
    (tells : book.Tells number room) :
    (book.after next).Tells number { room with players, stage := .finished later } := by
  have stay := finishes.players_eq linked
  rcases finishes with ⟨found, playing, accepted, how, here, ended, named, heard⟩
  have follows : room.state.MayBecome .finished := by
    rw [Room.state, playing]
    rfl
  have ranked := regular.of_playing playing
  rcases (linked.orderly.sound found).of_playing playing with ⟨seated, _, ready⟩
  have among := (Game.sublist_players_of_attempt ranked.distinct accepted).subset
  let names := later.standings.filterMap book.server.nicknameOf?
  rcases tells.counts found here (.inr follows) with ⟨openings, endings⟩
  refine ⟨openings, endings, .finished ending names fun me member => ?_⟩
  rcases linked'.led ⟨_, here, member⟩ with ⟨id, leads⟩
  have sits : next.Sits id me number := ⟨leads, _, here, member⟩
  have member' : me ∈ later.players := stay ▸ member
  have wins := wins_of_attempt ranked ready accepted member'
  rcases tells.opening linked found playing (seated ▸ among member') sits with ⟨dealt, lines⟩
  refine ⟨dealt, ?_⟩
  rw [lines, heard sits, List.append_assoc (if game.Empties later me then _ else _),
    ← List.append_assoc (if game.holdsCards me then _ else _), wins]
  split <;> rfl

/-! ## Runs -/

/-- A logbook that is right about a server whose rooms are regular. -/
structure Tidy (book : Logbook) : Prop where
  linked : book.server.Linked
  regular : book.server.Regular
  tells : ∀ number room, book.server.lobby.room? number = some room → book.Tells number room

theorem tidy_start (config : ServerConfig) (deals : List Deal) : (start config deals).Tidy where
  linked := linked_start config deals
  regular number room found := by cases found
  tells number room found := by cases found

theorem Tidy.after (tidy : book.Tidy) (step : book.server.Step next) : (book.after next).Tidy := by
  rcases tidy with ⟨linked, regular, tells⟩
  have linked' := step.linked linked
  have happening := step.happening linked
  refine ⟨linked', happening.regular linked linked' regular, ?_⟩
  intro number later found'
  change next.lobby.room? number = some later at found'
  rcases happening.still_or_affair linked' number with ⟨same, quiet⟩ | ⟨elsewhere, affair⟩
  · have found : book.server.lobby.room? number = some later := same ▸ found'
    exact (tells number later found).of_kept linked linked' found found' rfl (fun _ => id) quiet
  · cases affair with
    | enters enters =>
      cases enters.here.symm.trans found'
      exact tells_of_enters linked linked' elsewhere enters (tells number)
    | starts starts =>
      cases starts.here.symm.trans found'
      exact tells_of_starts linked linked' elsewhere starts (tells _ _ starts.found)
    | leaves player leaves =>
      cases leaves.here later found'
      exact (tells _ _ leaves.found).of_kept linked linked' leaves.found found' rfl
        List.erase_subset fun id _ _ => leaves.plain id
    | moves players moves =>
      cases moves.here.symm.trans found'
      exact tells_of_moves moves linked linked' (regular _ _ moves.found) (tells _ _ moves.found)
    | finishes finishes =>
      cases finishes.here.symm.trans found'
      exact tells_of_finishes finishes linked linked' (regular _ _ finishes.found)
        (tells _ _ finishes.found)

theorem Kept.tidy (kept : Kept config deals book) : book.Tidy := by
  induction kept with
  | start => exact tidy_start config deals
  | step _ step tidy => exact tidy.after step

/-- A logbook can be kept over every run, and is there after each of its calls. -/
theorem exists_kept_run (config : ServerConfig) (deals : List Deal) (calls : List Call) :
    ∃ book, Kept config deals book ∧
      book.server = (Server.start config.validated deals).run calls := by
  have kept : Invariant fun server => ∃ book, Kept config deals book ∧ book.server = server := by
    refine ⟨?_, ?_⟩
    · rintro server ⟨book, kept, rfl⟩
      exact kept.tidy.linked
    · rintro server next ⟨book, kept, rfl⟩ step
      exact ⟨book.after next, .step kept step, rfl⟩
  exact kept.run ⟨_, .start, rfl⟩ calls

end Logbook

/-- A logbook can be kept over every run. At any time, in a room that waits nobody has heard of a
game; in one that plays, a game has been started once, and all players have heard that, have heard
their hands once, and once that they have won if they hold no cards any more; and in one that is
finished the game has been ended once as well, and all have heard one verdict and one ranking. The
next step, be it a frame that is served or a connection that ends, starts a game just when it takes
the last seat, and ends one just when it leaves a single player with cards; what is heard in the
room then is told by `Dealt` and by `Decided`, and otherwise nothing is heard but that somebody has
emptied a hand. Whoever has no seat hears nothing of any game. -/
theorem games_start_and_end_once (config : ServerConfig) (deals : List Deal) :
    (∀ calls, ∃ book, Logbook.Kept config deals book ∧
      book.server = (start config.validated deals).run calls) ∧
    ∀ book, Logbook.Kept config deals book →
      (∀ number room, book.server.lobby.room? number = some room → book.Tells number room) ∧
      ∀ next, book.server.Step next → (∀ number, book.server.Conducts next number) ∧
        ∀ id, (∀ player number, ¬next.Sits id player number) →
          milestones (book.server.news next id) = [] := by
  refine ⟨Logbook.exists_kept_run config deals, ?_⟩
  intro book kept
  rcases kept.tidy with ⟨linked, regular, tells⟩
  refine ⟨tells, ?_⟩
  intro next step
  have happening := step.happening linked
  exact ⟨happening.conducts linked (step.linked linked) regular, fun _ => happening.unheard⟩

/-- Ann and Bob are in a game that has been started once, and in which Bob's connection ends. -/
theorem games_start_and_end_once_of_forfeit : ∃ book, Logbook.Kept .standard [] book ∧
    book.openings 0 = 1 ∧ book.endings 0 = 0 ∧
    book.server.Closes (book.server.terminate 2 .silence) 0 ∧
    book.server.Decided (book.server.terminate 2 .silence) 0 := by
  rcases games_start_and_end_once .standard [] with ⟨runs, kept_tells⟩
  rcases runs (duel.take 4) with ⟨book, kept, same⟩
  rcases kept_tells book kept with ⟨tells, conducts⟩
  have plays : book.server.stateOf? 0 = some .playing := by
    rw [same]
    decide +kernel
  have closes : book.server.Closes (book.server.terminate 2 .silence) 0 := by
    rw [same]
    decide +kernel
  rcases Option.map_eq_some_iff.1 plays with ⟨room, found, state⟩
  rcases tells 0 room found with ⟨openings, endings, _⟩
  rw [state] at openings endings
  exact ⟨book, kept, openings, endings, closes,
    ((conducts _ (.terminate 2 .silence)).1 0).decided closes⟩

end CardTable.Server
