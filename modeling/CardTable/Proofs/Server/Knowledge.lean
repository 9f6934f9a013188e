import CardTable.Proofs.Server.Record

/-!
# What clients know

From the lines that have been queued for its connection alone, and the cards that it has laid, a
client knows who sits in its room and how its table stands, at the end of every call of every run.
-/

namespace CardTable.Server

namespace Record

variable {record : Record} {id : ConnectionId} {identity : Identity} {number : RoomId}

/-- What a client learns from its lines and its cards informs it. -/
theorem Coherent.informed (coherent : record.Coherent) :
    record.server.Informed record.server.awake record.words ∧
      ∀ id, (record.words id).map Word.notice = record.heard id := by
  rcases coherent.tracks with ⟨words, informed, lines, cards, plain⟩
  have heard (id : ConnectionId) : (words id).map Word.notice = record.heard id :=
    (lines id).trans (List.append_nil _)
  have known : record.words = words := by
    funext id
    rw [Record.words, ← cards id, ← heard id, paired_eq (plain id)]
  rw [known]
  refine ⟨⟨?_, informed.nameless⟩, heard⟩
  intro id player number sits
  exact informed.seated ⟨sits.leads, sits.seats⟩

/-- The roster that a client has kept from a picture of its room on is that of the room. -/
theorem Coherent.knowsRoster (coherent : record.Coherent)
    (seated : record.server.seated? id = some (identity, number)) {before later : List Notice}
    {picture : Notice} {roster : List Occupant} (heard : record.heard id = before ++ picture :: later)
    (shows_room : picture.roster? = some roster) (stayed : ∀ notice ∈ later, ¬notice.Enters) :
    Lists identity.player (later.foldl Notice.onRoster roster)
      (record.server.scene record.server.awake number).guests := by
  rcases coherent.informed with ⟨informed, lines⟩
  have follows := (informed.seated (coherent.linked.sits_of_seated? seated).1).1
  have split := (lines id).trans heard
  rcases List.map_eq_append_iff.1 split with ⟨earlier, account, words, _, rest⟩
  rcases List.map_eq_cons_iff.1 rest with ⟨first, after, rfl, rfl, rfl⟩
  have opened : first.notice.roster?.isSome := by rw [shows_room]; rfl
  have knows := follows earlier first after words opened fun word member =>
    stayed _ (List.mem_map_of_mem member)
  rw [KnowsRoster, rosterIn, shows_room] at knows
  exact knows

/-- The table that a client has kept from the start of its game on, or from a picture of it, is that of
the game. -/
theorem Coherent.knowsTable (coherent : record.Coherent)
    (seated : record.server.seated? id = some (identity, number)) {before later : List Word}
    {base : Word} (heard : record.words id = before ++ base :: later)
    (shows_game : base.ShowsGame) (still : ∀ word ∈ later, ¬word.Starts) :
    KnowsTable identity.player (record.server.scene record.server.awake number) (base :: later) := by
  have sits := (coherent.linked.sits_of_seated? seated).1
  exact (coherent.informed.1.seated sits).2 before base later heard shows_game still

end Record

/-- Ann opens a room and asks who is there; Bob joins her. She lays the ace of diamonds, he has no ace
and must pass, and she draws a card. A while later Bob has fallen asleep. -/
def duel : List Call :=
  let send (id : ConnectionId) (text : String) (now : Nanos) : Call :=
    .receive id [.bytes 0x50 (Wire.bytesOf text)] now
  [.accept 1 0, .accept 2 0,
    send 1 "RSI NAME Ann |PRSI CREATE_ROOM |PRSI ROOM_INFO |" 1,
    send 2 "RSI NAME Bob |PRSI JOIN_ROOM 0 |" 2,
    send 1 "RSI PLAY KA |" 3, send 2 "RSI PASS |" 4, send 1 "RSI DRAW |" 5,
    .sweep (Nanos.ofMillis 5000 + 5)]

/-- Whoever has been shown the room since coming in knows who sits there, and who of the others is
awake, by following the lines that have come since. -/
theorem rosters_followed (config : ServerConfig) (deals : List Deal) (calls : List Call)
    {id : ConnectionId} {identity : Identity} {number : RoomId} {before later : List Notice}
    {picture : Notice} {roster : List Occupant}
    (seated : ((Record.start config deals).run calls).server.seated? id = some (identity, number))
    (heard : ((Record.start config deals).run calls).heard id = before ++ picture :: later)
    (shows_room : picture.roster? = some roster) (stayed : ∀ notice ∈ later, ¬notice.Enters) :
    ∃ view, ((Record.start config deals).run calls).server.roomView? number = some view ∧
      List.Forall₂ (fun known occupant => known.nickname = occupant.nickname ∧
          (occupant.nickname ≠ identity.nickname → known.awake = occupant.awake))
        (later.foldl Notice.onRoster roster) view.occupants := by
  have coherent := (Record.coherent_start config deals).run calls
  generalize (Record.start config deals).run calls = record at *
  have lists := coherent.knowsRoster seated heard shows_room stayed
  rcases coherent.linked.sits_of_seated? seated with ⟨sits, named⟩
  rcases sits.seats with ⟨room, found, member⟩
  have hosts := coherent.linked.hosts found
  have seen : record.server.roomView? number = some (room.view record.server.occupant?) := by
    rw [roomView?, found, Option.map_some]
  refine ⟨_, seen, ?_⟩
  rw [occupants_of_roomView? coherent.linked.indexed hosts (fun found => awake_of_get? found) seen,
    List.forall₂_map_right_iff]
  have own : ∀ guest ∈ (record.server.scene record.server.awake number).guests,
      guest.nickname ≠ identity.nickname → guest.player ≠ identity.player := by
    intro guest present other same
    rcases guest?_eq_some ((mem_guests found).1 present).2 with ⟨_, nickname, _⟩
    rw [same] at nickname
    exact other (Option.some.inj (nickname.symm.trans named))
  -- A client knows itself by its nickname, the roster leaves its player out.
  have both := (List.forall₂_and_left _ _).2 ⟨own, lists.flip⟩
  refine both.flip.imp ?_
  rintro known guest ⟨other, describes⟩
  exact ⟨describes.nickname, fun apart => describes.awake (other apart)⟩

/-- Ann has seen herself alone, and then Bob come in and fall asleep. -/
theorem rosters_followed_of_duel :
    ∃ view, ((Record.start .standard []).run duel).server.roomView? 0 = some view ∧
      List.Forall₂ (fun (known occupant : Occupant) => known.nickname = occupant.nickname ∧
          (occupant.nickname ≠ "Ann" → known.awake = occupant.awake))
        [⟨"Ann", true⟩, ⟨"Bob", false⟩] view.occupants := by
  have seated : ((Record.start .standard []).run duel).server.seated? 1 =
      some ({ nickname := "Ann", player := 1 }, 0) := by decide +kernel
  have heard : ((Record.start .standard []).run duel).heard 1 =
      [.ok .name, .ok .createRoom] ++ .room ⟨0, .waiting, [⟨"Ann", true⟩]⟩ ::
        (((Record.start .standard []).run duel).heard 1).drop 3 := by decide +kernel
  have known : ((((Record.start .standard []).run duel).heard 1).drop 3).foldl Notice.onRoster
      [⟨"Ann", true⟩] = [⟨"Ann", true⟩, ⟨"Bob", false⟩] := by decide +kernel
  have stayed : ∀ notice ∈ (((Record.start .standard []).run duel).heard 1).drop 3,
      ¬notice.Enters := by decide +kernel
  rcases rosters_followed .standard [] duel seated heard rfl stayed with ⟨view, shown, follows⟩
  rw [known] at follows
  exact ⟨view, shown, follows⟩

/-- Whoever has heard a game start, or has been shown it, knows whose turn it is, what lies on top
and what is in the own hand, and, since the start, how many cards each of the others holds. -/
theorem tables_followed (config : ServerConfig) (deals : List Deal) (calls : List Call)
    {id : ConnectionId} {identity : Identity} {number : RoomId} {room : Room} {game : Game}
    {before later : List Word} {base : Word}
    (seated : ((Record.start config deals).run calls).server.seated? id = some (identity, number))
    (found : ((Record.start config deals).run calls).server.lobby.room? number = some room)
    (playing : room.stage = .playing game)
    (heard : ((Record.start config deals).run calls).words id = before ++ base :: later)
    (shows_game : base.ShowsGame) (still : ∀ word ∈ later, ¬word.Starts) :
    (∃ current nickname, game.currentPlayer? = some current ∧
      ((Record.start config deals).run calls).server.nicknameOf? current = some nickname ∧
      lastTurn? (base :: later) = some { nickname, top := game.top }) ∧
    game.hand? identity.player = some (handIn (base :: later)) ∧
    (base = .said .gameStart → ∃ dealt, dealtIn? (base :: later) = some dealt ∧
      ∀ player ∈ room.players, player ≠ identity.player → ∃ nickname hand,
        ((Record.start config deals).run calls).server.nicknameOf? player = some nickname ∧
        game.hand? player = some hand ∧
        dealt + drawnIn (base :: later) nickname =
          playedIn (base :: later) nickname + hand.length) := by
  have coherent := (Record.coherent_start config deals).run calls
  generalize (Record.start config deals).run calls = record at *
  have hosts := coherent.linked.hosts found
  have indexed := coherent.linked.indexed
  have on : (record.server.scene record.server.awake number).game = some game := by
    rw [game_scene found, playing]
    rfl
  have knows := coherent.knowsTable seated heard shows_game still game on
  refine ⟨?_, knows.own, ?_⟩
  · rcases exists_turn indexed hosts record.server.awake playing with ⟨turn, shown⟩
    rcases currentPlayer?_of_turn? hosts playing shown with ⟨current, next, named, top⟩
    refine ⟨current, turn.nickname, next, named, ?_⟩
    rw [knows.turn, shown, ← top]
  · intro starts
    rcases knows.others (congrArg some starts) with ⟨dealt, known, counts⟩
    refine ⟨dealt, known, ?_⟩
    intro player member other
    rcases exists_guest indexed hosts record.server.awake member with ⟨guest, seen, rfl, shown⟩
    rcases counts guest seen other with ⟨hand, held, count⟩
    exact ⟨guest.nickname, hand, (guest?_eq_some shown).2.1, held, count⟩

/-- Ann has been dealt the ace of diamonds and three more cards, has laid the ace and drawn the king
of spades; Bob has neither laid nor drawn a card. -/
theorem tables_followed_of_duel : ∃ room game,
    ((Record.start .standard []).run duel).server.lobby.room? 0 = some room ∧
      room.stage = .playing game ∧ game.top = ⟨.diamonds, .ace⟩ ∧
      game.hand? 1 =
        some [⟨.diamonds, .ober⟩, ⟨.diamonds, .ten⟩, ⟨.diamonds, .eight⟩, ⟨.spades, .king⟩] ∧
      ∃ hand, game.hand? 2 = some hand ∧ hand.length = 4 := by
  have seated : ((Record.start .standard []).run duel).server.seated? 1 =
      some ({ nickname := "Ann", player := 1 }, 0) := by decide +kernel
  have heard : ∃ later, ((Record.start .standard []).run duel).words 1 =
        (((Record.start .standard []).run duel).words 1).take 4 ++ .said .gameStart :: later ∧
      (∀ word ∈ later, ¬word.Starts) ∧
      lastTurn? (.said .gameStart :: later) = some { nickname := "Bob", top := ⟨.diamonds, .ace⟩ } ∧
      handIn (.said .gameStart :: later) =
        [⟨.diamonds, .ober⟩, ⟨.diamonds, .ten⟩, ⟨.diamonds, .eight⟩, ⟨.spades, .king⟩] ∧
      dealtIn? (.said .gameStart :: later) = some 4 ∧
      drawnIn (.said .gameStart :: later) "Bob" = 0 ∧
      playedIn (.said .gameStart :: later) "Bob" = 0 :=
    ⟨(((Record.start .standard []).run duel).words 1).drop 5, by decide +kernel⟩
  rcases heard with ⟨later, heard, still, turn, own, dealt, drawn, played⟩
  have on : ((((Record.start .standard []).run duel).server.lobby.room? 0).bind fun room =>
      room.stage.on?).isSome := by decide +kernel
  rcases Option.isSome_iff_exists.1 on with ⟨game, on⟩
  rcases Option.bind_eq_some_iff.1 on with ⟨room, found, on⟩
  have playing := Stage.on?_eq_some_iff.1 on
  have bob : 2 ∈ room.players := by
    have players : (((Record.start .standard []).run duel).server.lobby.room? 0).map Room.players =
        some [1, 2] := by decide +kernel
    rw [found, Option.map_some, Option.some_inj] at players
    simp [players]
  have named : ((Record.start .standard []).run duel).server.nicknameOf? 2 = some "Bob" := by
    decide +kernel
  rcases tables_followed .standard [] duel seated found playing heard trivial still with
    ⟨⟨_, _, _, _, last⟩, held, others⟩
  rcases others rfl with ⟨_, known, counts⟩
  rcases counts 2 bob (by decide) with ⟨_, hand, named', held', count⟩
  rw [turn, Option.some_inj, TurnView.mk.injEq] at last
  cases Option.some.inj (dealt.symm.trans known)
  cases Option.some.inj (named.symm.trans named')
  rw [drawn, played] at count
  exact ⟨room, game, found, playing, last.2.symm, held.trans (congrArg some own), hand, held',
    by omega⟩

end CardTable.Server
