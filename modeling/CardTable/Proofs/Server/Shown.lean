import CardTable.Proofs.Client.Roster
import CardTable.Proofs.Client.Table
import CardTable.Proofs.Server.Scenes

/-!
# What clients learn

A server informs its clients if each of them can follow the room that it sits in from the words that
it has learned. What has to be shown of a change of the server is only that every seated client sees
it happen, in the sense of `Sees`; that the clients stay informed follows. The words are tied to the
lines that are queued and to the cards that the clients have laid.
-/

namespace CardTable

namespace Sessions

/-- No session comes, and nothing happens to what has come in nor to the clocks. -/
def Keeps (sessions next : Sessions) : Prop :=
  ∀ id later, next.get? id = some later → ∃ earlier, sessions.get? id = some earlier ∧
    earlier.presence = later.presence ∧ earlier.incoming = later.incoming

theorem Keeps.refl (sessions : Sessions) : sessions.Keeps sessions :=
  fun _ later found => ⟨later, found, rfl, rfl⟩

theorem Keeps.trans {sessions middle next : Sessions} (first : sessions.Keeps middle)
    (second : middle.Keeps next) : sessions.Keeps next := by
  intro id later found
  rcases second id later found with ⟨between, found', presence', incoming'⟩
  rcases first id between found' with ⟨earlier, found'', presence, incoming⟩
  exact ⟨earlier, found'', presence.trans presence', incoming.trans incoming'⟩

theorem keeps_put {sessions : Sessions} {id : ConnectionId} {session changed : Session}
    (found : sessions.get? id = some session) (filed : changed.id = id)
    (presence : session.presence = changed.presence) (incoming : session.incoming = changed.incoming) :
    sessions.Keeps (sessions.put changed) := by
  intro asked later found'
  rw [get?_put_of_get? found filed] at found'
  split at found'
  · next same =>
    cases found'
    exact ⟨session, same ▸ found, presence, incoming⟩
  · exact ⟨later, found', rfl, rfl⟩

theorem keeps_close (sessions : Sessions) (id : ConnectionId) :
    sessions.Keeps (sessions.close id).2 := by
  intro asked later found
  rw [get?_close] at found
  split at found
  · cases found
  · exact ⟨later, found, rfl, rfl⟩

theorem keeps_named {sessions : Sessions} {session : Session}
    (live : sessions.get? session.id = some session) (identity : Identity) :
    sessions.Keeps (sessions.named session identity) := by
  intro asked later found
  rw [get?_named live] at found
  split at found
  · next same =>
    cases found
    exact ⟨session, same ▸ live, rfl, rfl⟩
  · exact ⟨later, found, rfl, rfl⟩

theorem keeps_inherited {sessions : Sessions} {previous heir : Session}
    (live : sessions.get? heir.id = some heir) (different : previous.id ≠ heir.id)
    (identity : Identity) : sessions.Keeps (sessions.inherited previous heir identity) := by
  intro asked later found
  rw [get?_inherited live different] at found
  split at found
  · next same =>
    cases found
    exact ⟨heir, same ▸ live, rfl, rfl⟩
  · split at found
    · cases found
    · exact ⟨later, found, rfl, rfl⟩

end Sessions

namespace Server

variable {server middle next : Server} {told told' : ConnectionId → Bool}
  {words learned : ConnectionId → List Word} {number : RoomId}

/-- The lines for a connection in the call under way. -/
def lines (server : Server) (id : ConnectionId) : List Notice :=
  (server.mail.filter fun delivery => delivery.connection = id).map Delivery.notice

/-! ## Informed clients -/

/-- Whoever sits in a room can follow it. A client without a name has been shown no game. -/
structure Informed (server : Server) (told : ConnectionId → Bool)
    (words : ConnectionId → List Word) : Prop where
  seated : ∀ {id player number}, server.Sits id player number →
    FollowsRoster player (server.scene told number) (words id) ∧
      FollowsTable player (server.scene told number) (words id)
  nameless : ∀ {id session}, server.sessions.get? id = some session → session.identity = none →
    ∀ word ∈ words id, ¬word.ShowsGame

/-- How somebody finds the room after a change: one has been there before and sees the change, or one
comes in, from the lobby to a room without a game or to take over a seat. -/
inductive Finds (server : Server) (told : ConnectionId → Bool) (next : Server)
    (told' : ConnectionId → Bool) (learned : List Word) (id : ConnectionId) (player : PlayerId)
    (number : RoomId) : Prop
  | stays (sat : server.Sits id player number)
      (sees : Sees player (server.scene told number) learned (next.scene told' number))
  | comes (notice : Notice) (learned_eq : learned = [.said notice]) (enters : notice.Enters)
      (new : (next.scene told' number).game = none ∨
        ∃ session, server.sessions.get? id = some session ∧ session.identity = none)

/-- A change that every client sees. -/
structure Shown (server : Server) (told : ConnectionId → Bool) (next : Server)
    (told' : ConnectionId → Bool) (learned : ConnectionId → List Word) : Prop where
  seated : ∀ {id player number}, next.Sits id player number →
    server.Finds told next told' (learned id) id player number
  nameless : ∀ {id session}, next.sessions.get? id = some session → session.identity = none →
    (∃ earlier, server.sessions.get? id = some earlier ∧ earlier.identity = none) ∧
      ∀ word ∈ learned id, ¬word.ShowsGame

theorem Informed.step (informed : server.Informed told words)
    (shown : server.Shown told next told' learned) :
    next.Informed told' fun id => words id ++ learned id := by
  refine ⟨?_, ?_⟩
  · intro id player number sits
    cases shown.seated sits with
    | stays sat sees =>
      rcases informed.seated sat with ⟨roster, table⟩
      exact ⟨roster.sees sees, table.sees sees⟩
    | comes notice learned_eq enters new =>
      rw [learned_eq]
      refine ⟨followsRoster_of_enters enters _, ?_⟩
      -- An account of a table from before would go on here, but there is no game to be wrong about,
      -- or the client has not been shown any.
      rcases new with idle | ⟨session, found, unnamed⟩
      · exact followsTable_of_idle idle _
      · apply accounts_of_not_opens
        intro word member
        rcases List.mem_append.1 member with old | last
        · exact informed.nameless found unnamed word old
        · rw [List.mem_singleton.1 last]
          exact enters.not_showsGame
  · intro id session found unnamed word member
    rcases shown.nameless found unnamed with ⟨⟨earlier, found', unnamed'⟩, fresh⟩
    rcases List.mem_append.1 member with old | new
    · exact informed.nameless found' unnamed' word old
    · exact fresh word new

/-! ## Lines and cards -/

/-- What is learned in a change is what is said in it, and which cards are laid. -/
structure Spoken (server next : Server) (learned : ConnectionId → List Word) : Prop where
  lines : ∀ id, next.lines id = server.lines id ++ (learned id).map Word.notice
  plain : ∀ id, ∀ word ∈ learned id, word ≠ .said (.ok .play)

/-- The clients are informed by the words that they learn from their lines, those of earlier calls
and those of the call under way, and the cards that they have laid. -/
structure Tracked (server : Server) (told : ConnectionId → Bool)
    (heard : ConnectionId → List Notice) (plays : ConnectionId → List Card)
    (words : ConnectionId → List Word) : Prop where
  informed : server.Informed told words
  lines : ∀ id, (words id).map Word.notice = heard id ++ server.lines id
  cards : ∀ id, (words id).filterMap Word.card? = plays id
  plain : ∀ id, ∀ word ∈ words id, word ≠ .said (.ok .play)

/-- The clients are informed by some words that go with their lines and their cards. -/
def Tracks (server : Server) (told : ConnectionId → Bool) (heard : ConnectionId → List Notice)
    (plays : ConnectionId → List Card) : Prop :=
  ∃ words, server.Tracked told heard plays words

variable {heard : ConnectionId → List Notice} {plays laid : ConnectionId → List Card}

theorem Tracks.step (tracks : server.Tracks told heard plays)
    (shown : server.Shown told next told' learned) (spoken : server.Spoken next learned) :
    next.Tracks told' heard fun id => plays id ++ (learned id).filterMap Word.card? := by
  rcases tracks with ⟨words, tracked⟩
  refine ⟨_, tracked.informed.step shown, ?_, ?_, ?_⟩
  · intro id
    rw [List.map_append, tracked.lines, spoken.lines, List.append_assoc]
  · intro id
    rw [List.filterMap_append, tracked.cards]
  · intro id word member
    rcases List.mem_append.1 member with old | new
    · exact tracked.plain id word old
    · exact spoken.plain id word new

theorem lines_saying (server : Server) (mail : List Delivery) (id : ConnectionId) :
    (server.saying mail).lines id = server.lines id ++ (wordsTo mail id).map Word.notice := by
  simp [lines, Server.mail, saying, wordsTo, Function.comp_def, Word.notice]

theorem card?_wordsTo (mail : List Delivery) (id : ConnectionId) :
    (wordsTo mail id).filterMap Word.card? = [] := by
  simp [wordsTo, Word.card?]

theorem plain_wordsTo {mail : List Delivery} (plain : ∀ delivery ∈ mail, delivery.notice ≠ .ok .play)
    (id : ConnectionId) : ∀ word ∈ wordsTo mail id, word ≠ .said (.ok .play) :=
  forall_mem_wordsTo (fun delivery member => mt Word.said.inj (plain delivery member)) id

/-- What is said, if it answers no play. -/
theorem spoken_of_saying {mail : List Delivery} (said : next.said = mail.reverse ++ server.said)
    (plain : ∀ delivery ∈ mail, delivery.notice ≠ .ok .play) :
    server.Spoken next (wordsTo mail) := by
  refine ⟨?_, plain_wordsTo plain⟩
  intro id
  rw [← lines_saying]
  simp only [lines, Server.mail, said, saying]

/-! ## Answers -/

/-- A change within a call, in which the connections lay the given cards: the clients stay informed,
and no clock is touched. -/
structure Answered (server : Server) (told : ConnectionId → Bool) (next : Server)
    (laid : ConnectionId → List Card) : Prop where
  tracks : ∀ {heard plays}, server.Tracks told heard plays →
    next.Tracks told heard fun id => plays id ++ laid id
  keeps : server.sessions.Keeps next.sessions

/-- A change in which nobody lays a card. -/
abbrev Quietly (server : Server) (told : ConnectionId → Bool) (next : Server) : Prop :=
  server.Answered told next fun _ => []

theorem Quietly.refl (server : Server) (told : ConnectionId → Bool) :
    server.Quietly told server :=
  ⟨fun tracks => by simpa using tracks, .refl _⟩

theorem Tracks.quietly (tracks : server.Tracks told heard plays) (quietly : server.Quietly told next) :
    next.Tracks told heard plays := by
  simpa using quietly.tracks tracks

theorem Quietly.trans (first : server.Quietly told middle) (second : middle.Answered told next laid) :
    server.Answered told next laid :=
  ⟨fun tracks => by simpa using second.tracks (first.tracks tracks), first.keeps.trans second.keeps⟩

theorem quietly_of_shown (mail : List Delivery)
    (shown : server.Shown told next told (wordsTo mail))
    (said : next.said = mail.reverse ++ server.said)
    (plain : ∀ delivery ∈ mail, delivery.notice ≠ .ok .play)
    (keeps : server.sessions.Keeps next.sessions) : server.Quietly told next := by
  refine ⟨?_, keeps⟩
  intro heard plays tracks
  simpa [card?_wordsTo] using tracks.step shown (spoken_of_saying said plain)

/-! ## Changes that leave people alone -/

/-- Everybody carries the same player under the same nickname. -/
structure SamePeople (server next : Server) : Prop where
  byPlayer : next.sessions.byPlayer = server.sessions.byPlayer
  identity : ∀ id, (next.sessions.get? id).map Session.identity =
    (server.sessions.get? id).map Session.identity

theorem samePeople_of_eq (same : next.sessions = server.sessions) : server.SamePeople next := by
  refine ⟨?_, ?_⟩ <;> simp [same]

theorem samePeople_of_alike (alike : server.sessions.Alike next.sessions) :
    server.SamePeople next := by
  refine ⟨alike.byPlayer, ?_⟩
  intro id
  have same := congrArg (Option.map fun standing => standing.2.1) (alike.standing id)
  simpa [Option.map_map, Function.comp_def, Session.standing] using same

theorem Moved.keeps {ids : List ConnectionId} {location : Location}
    (moved : server.Moved ids location next) : server.sessions.Keeps next.sessions := by
  intro id later found
  rw [moved.get?] at found
  rcases Option.map_eq_some_iff.1 found with ⟨earlier, found', rfl⟩
  refine ⟨earlier, found', ?_⟩
  split <;> exact ⟨rfl, rfl⟩

namespace SamePeople

variable (people : server.SamePeople next)

include people

theorem findPlayer? (player : PlayerId) :
    next.sessions.findPlayer? player = server.sessions.findPlayer? player := by
  rw [Sessions.findPlayer?, people.byPlayer, Sessions.findPlayer?]

theorem nicknameOf? (player : PlayerId) : next.nicknameOf? player = server.nicknameOf? player := by
  have carried (id : ConnectionId) : (next.sessions.get? id).bind Session.nickname? =
      (server.sessions.get? id).bind Session.nickname? := by
    have same := people.identity id
    cases found : next.sessions.get? id with
    | none =>
      rw [found, Option.map_none, eq_comm, Option.map_eq_none_iff] at same
      rw [same]
    | some session =>
      rw [found, Option.map_some, eq_comm] at same
      rcases Option.map_eq_some_iff.1 same with ⟨earlier, found', identity⟩
      simp [found', Session.nickname?, identity]
  simp only [Server.nicknameOf?, carrier?, people.findPlayer?, Option.bind_eq_bind,
    Option.bind_assoc]
  congr 1
  funext id
  exact carried id

theorem guest? (told : ConnectionId → Bool) (player : PlayerId) :
    next.guest? told player = server.guest? told player :=
  guest?_congr (people.findPlayer? player) (people.nicknameOf? player) fun _ _ => rfl

theorem exists_nameless {id : ConnectionId} {session : Session}
    (found : next.sessions.get? id = some session) (unnamed : session.identity = none) :
    ∃ earlier, server.sessions.get? id = some earlier ∧ earlier.identity = none := by
  have same := people.identity id
  rw [found, Option.map_some, unnamed] at same
  exact Option.map_eq_some_iff.1 same.symm

end SamePeople

/-- What is told to somebody about oneself does not show in a room where one does not sit. -/
theorem Tracks.of_told (tracks : server.Tracks told heard plays)
    (same : ∀ {id player number}, server.Sits id player number → told' id = told id) :
    server.Tracks told' heard plays := by
  rcases tracks with ⟨words, informed, lines, cards, plain⟩
  refine ⟨words, ⟨?_, informed.nameless⟩, lines, cards, plain⟩
  intro id player number sits
  have scenes : server.scene told' number = server.scene told number := by
    apply scene_congr rfl
    intro player seats
    exact guest?_congr rfl rfl fun _ leads => same ⟨leads, seats⟩
  rw [scenes]
  exact informed.seated sits

/-- Nobody sees anything if neither people nor rooms change and only talk is heard. -/
theorem shown_of_people (people : server.SamePeople next) (lobby : next.lobby = server.lobby)
    (talk : ∀ id, ∀ word ∈ learned id, word.IsTalk) : server.Shown told next told learned := by
  refine ⟨?_, ?_⟩
  · intro id player number sits
    refine .stays ⟨people.findPlayer? player ▸ sits.leads, lobby ▸ sits.seats⟩ ?_
    rw [scene_congr (by rw [lobby]) fun player _ => people.guest? told player]
    exact .talk (talk id)
  · intro id session found unnamed
    exact ⟨people.exists_nameless found unnamed, fun word member =>
      (talk id word member).not_showsGame⟩

theorem Tracks.of_people (tracks : server.Tracks told heard plays) (people : server.SamePeople next)
    (lobby : next.lobby = server.lobby) (said : next.said = server.said) :
    next.Tracks told heard plays := by
  have shown := @shown_of_people _ _ told (wordsTo []) people lobby (by simp)
  simpa [card?_wordsTo] using tracks.step shown (spoken_of_saying said (by simp))

theorem quietly_of_people (mail : List Delivery) (people : server.SamePeople next)
    (lobby : next.lobby = server.lobby) (said : next.said = mail.reverse ++ server.said)
    (idle : ∀ delivery ∈ mail, delivery.notice.IsTalk)
    (keeps : server.sessions.Keeps next.sessions) : server.Quietly told next := by
  refine quietly_of_shown mail (shown_of_people people lobby (forall_mem_wordsTo idle)) said ?_ keeps
  exact fun delivery member => (idle delivery member).ne_ok_play

/-- What happens in one room is seen there, and nobody else has to hear of it. -/
theorem shown_of_room (number : RoomId) (people : server.SamePeople next)
    (indexed : server.sessions.Indexed)
    (elsewhere : ∀ asked, asked ≠ number → next.lobby.room? asked = server.lobby.room? asked)
    (alone : ∀ {player asked}, next.lobby.Seats number player → next.lobby.Seats asked player →
      asked = number)
    (quiet : ∀ id, (∀ player, ¬next.Sits id player number) → learned id = [] ∧ told' id = told id)
    (here : ∀ {id player}, next.Sits id player number →
      server.Finds told next told' (learned id) id player number) :
    server.Shown told next told' learned := by
  -- Whoever sits elsewhere does not sit here too, and so hears nothing.
  have apart : ∀ {id player asked}, next.Sits id player asked → asked ≠ number →
      ∀ other, ¬next.Sits id other number := by
    rintro id player asked sits away other ⟨leads, seats⟩
    have leads' := sits.leads
    rw [people.findPlayer?] at leads leads'
    rw [indexed.eq_of_findPlayer? leads leads'] at seats
    exact away (alone seats sits.seats)
  refine ⟨?_, ?_⟩
  · intro id player asked sits
    by_cases same : asked = number
    · subst same
      exact here sits
    · have rooms := elsewhere asked same
      have seats : ∀ player, server.lobby.Seats asked player ↔ next.lobby.Seats asked player := by
        intro player
        rw [Lobby.Seats, Lobby.Seats, rooms]
      have scenes : next.scene told' asked = server.scene told asked := by
        apply scene_congr rooms
        intro player seated
        apply guest?_congr (people.findPlayer? player) (people.nicknameOf? player)
        intro id leads
        have sits' : next.Sits id player asked :=
          ⟨(people.findPlayer? player).trans leads, (seats player).1 seated⟩
        exact (quiet id (apart sits' same)).2
      refine .stays ⟨people.findPlayer? player ▸ sits.leads, (seats player).2 sits.seats⟩ ?_
      rw [(quiet id (apart sits same)).1, scenes]
      exact .talk (by simp)
  · intro id session found unnamed
    rcases people.exists_nameless found unnamed with ⟨earlier, found', unnamed'⟩
    have silent : learned id = [] := by
      apply (quiet id _).1
      rintro player ⟨leads, _⟩
      rw [people.findPlayer?] at leads
      rcases indexed.exists_identity leads with ⟨holder, nickname, found'', carries⟩
      cases Option.some.inj (found'.symm.trans found'')
      cases unnamed'.symm.trans carries
    refine ⟨⟨earlier, found', unnamed'⟩, ?_⟩
    simp [silent]

end Server

end CardTable
