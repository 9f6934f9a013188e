import CardTable.Proofs.Client.Scene

/-!
# The table that a client keeps

From the start of a game on, or from a picture of it, a client keeps the turn, its own hand and the
sizes of the other hands. Whatever it sees happen while the game is on, all three stay those of the
game.
-/

namespace CardTable

/-! ## Words that do not matter -/

section Talk

variable {words : List Word}

theorem lastTurn?_of_talk (idle : ∀ word ∈ words, word.IsTalk) : lastTurn? words = none := by
  rw [lastTurn?, List.getLast?_eq_none_iff, List.filterMap_eq_nil_iff]
  intro word member
  cases word with
  | said notice =>
    have talk : notice.IsTalk := idle _ member
    cases notice with
    | turn => exact talk.elim
    | state snapshot => cases snapshot <;> first | exact talk.elim | rfl
    | _ => rfl
  | laid card => rfl

theorem foldl_onHand_of_talk (idle : ∀ word ∈ words, word.IsTalk) (hand : List Card) :
    words.foldl Word.onHand hand = hand := by
  induction words with
  | nil => rfl
  | cons word words ih =>
    rw [List.forall_mem_cons] at idle
    have kept : Word.onHand hand word = hand := by
      cases word with
      | said notice =>
        have talk : notice.IsTalk := idle.1
        cases notice with
        | hand | cards => exact talk.elim
        | _ => rfl
      | laid card => exact idle.1.elim
    rw [List.foldl_cons, kept, ih idle.2]

theorem playedIn_of_talk (idle : ∀ word ∈ words, word.IsTalk) (nickname : String) :
    playedIn words nickname = 0 := by
  apply List.sum_eq_zero
  rw [List.forall_mem_map]
  intro word member
  cases word with
  | said notice =>
    have talk : notice.IsTalk := idle _ member
    cases notice with
    | played => exact talk.elim
    | _ => rfl
  | laid card => rfl

theorem drawnIn_of_talk (idle : ∀ word ∈ words, word.IsTalk) (nickname : String) :
    drawnIn words nickname = 0 := by
  apply List.sum_eq_zero
  rw [List.forall_mem_map]
  intro word member
  cases word with
  | said notice =>
    have talk : notice.IsTalk := idle _ member
    cases notice with
    | drew => exact talk.elim
    | _ => rfl
  | laid card => rfl

theorem Word.IsTalk.not_showsGame {word : Word} (talk : word.IsTalk) : ¬word.ShowsGame := by
  cases word with
  | said notice =>
    intro shows_game
    cases notice with
    | gameStart => exact talk.elim
    | state snapshot =>
      cases snapshot with
      | game => exact talk.elim
      | _ => exact shows_game.elim
    | _ => exact shows_game.elim
  | laid card => exact id

theorem Notice.Enters.not_showsGame {notice : Notice} (enters : notice.Enters) :
    ¬(Word.said notice).ShowsGame := by
  cases notice with
  | ok command => exact id
  | _ => exact enters.elim

end Talk

/-! ## What is known of a game -/

/-- What an account says about a game is right. What it says about the hands of the others counts
from the deal. -/
structure KnowsGame (me : PlayerId) (scene : Scene) (game : Game) (account : List Word) : Prop where
  turn : lastTurn? account = scene.turn?
  own : game.hand? me = some (handIn account)
  others : account.head? = some (.said .gameStart) → ∃ dealt, dealtIn? account = some dealt ∧
    ∀ guest ∈ scene.guests, guest.player ≠ me → ∃ hand, game.hand? guest.player = some hand ∧
      dealt + drawnIn account guest.nickname = playedIn account guest.nickname + hand.length

/-- An account is right about the game of a scene, if one is on. -/
def KnowsTable (me : PlayerId) (scene : Scene) (account : List Word) : Prop :=
  ∀ game, scene.game = some game → KnowsGame me scene game account

/-- Every start of a game and every picture of one gives the right table from then on, unless another
game has started since. -/
def FollowsTable (me : PlayerId) (scene : Scene) (words : List Word) : Prop :=
  Accounts Word.ShowsGame Word.Starts (KnowsTable me scene) words

variable {me : PlayerId} {scene next : Scene} {account words later : List Word}

theorem followsTable_of_idle (idle : next.game = none) (words : List Word) :
    FollowsTable me next words := by
  intro before first later _ _ _ game on
  rw [idle] at on
  cases on

/-- What the others see of a deed says how the size of the hand changes. -/
theorem Deed.Done.counts {game after : Game} {deed : Deed} {player : PlayerId}
    (done : deed.Done game player after) {hand : List Card} (held : game.hand? player = some hand)
    (nickname : String) : ∃ rest, after.hand? player = some rest ∧
      hand.length + (deed.word false nickname).drawnBy nickname =
        (deed.word false nickname).playedBy nickname + rest.length := by
  refine ⟨deed.onHand hand, by rw [done.own, held, Option.map_some], ?_⟩
  cases deed with
  | lay card =>
    rcases done.held card rfl with ⟨hand', held', member⟩
    cases Option.some.inj (held.symm.trans held')
    have positive := List.length_pos_of_mem member
    simp only [onHand, word, Word.drawnBy, Word.playedBy, if_true, List.length_erase_of_mem member]
    omega
  | draw cards => simp [onHand, word, Word.drawnBy, Word.playedBy]
  | skip => simp [onHand, word, Word.drawnBy, Word.playedBy]

/-- A deed of somebody else does not count for a player with another nickname, and neither does one's
own deed. -/
theorem Deed.counts_of_ne {deed : Deed} {own : Bool} {nickname other : String}
    (different : own = true ∨ nickname ≠ other) :
    (deed.word own nickname).drawnBy other = 0 ∧ (deed.word own nickname).playedBy other = 0 := by
  rcases different with rfl | different
  · cases deed <;> exact ⟨rfl, rfl⟩
  · cases deed <;> cases own <;> simp [word, Word.drawnBy, Word.playedBy, different]

theorem Deed.onHand_word (deed : Deed) (hand : List Card) (nickname : String) (own : Bool) :
    Word.onHand hand (deed.word own nickname) = if own then deed.onHand hand else hand := by
  cases deed <;> cases own <;> rfl

theorem KnowsGame.act {game after : Game} (knows : KnowsGame me scene game account)
    (nonempty : account ≠ []) (distinct : scene.Distinct) {actor : Guest} {deed : Deed}
    (member : actor ∈ scene.guests) (done : deed.Done game actor.player after)
    (idle : ∀ word ∈ words, word.IsTalk) {turn : TurnView}
    (next : ({ scene with game := some after } : Scene).turn? = some turn) :
    KnowsGame me { scene with game := some after } after
      (account ++ (deed.word (actor.player = me) actor.nickname :: words ++ [.said (.turn turn)])) := by
  refine ⟨?_, ?_, ?_⟩
  · rw [lastTurn?_append, lastTurn?_append, next]
    rfl
  · rw [handIn_append nonempty, List.cons_append, List.foldl_cons, List.foldl_append,
      foldl_onHand_of_talk idle, deed.onHand_word]
    by_cases self : actor.player = me
    · have own := done.own
      rw [self, knows.own] at own
      simpa [self, Word.onHand] using own
    · rw [done.others me (Ne.symm self), knows.own]
      simp [self, Word.onHand]
  · intro starts
    rw [List.head?_append_of_ne_nil _ nonempty] at starts
    rcases knows.others starts with ⟨dealt, known, counts⟩
    refine ⟨dealt, by rw [dealtIn?_append, known]; rfl, ?_⟩
    intro guest member' other
    have added (nickname : String) :
        drawnIn (deed.word (actor.player = me) actor.nickname :: words ++ [.said (.turn turn)])
          nickname = (deed.word (actor.player = me) actor.nickname).drawnBy nickname ∧
        playedIn (deed.word (actor.player = me) actor.nickname :: words ++ [.said (.turn turn)])
          nickname = (deed.word (actor.player = me) actor.nickname).playedBy nickname := by
      have drawn := drawnIn_of_talk idle nickname
      have played := playedIn_of_talk idle nickname
      rw [drawnIn] at drawn
      rw [playedIn] at played
      simp [drawnIn, playedIn, drawn, played, Word.drawnBy, Word.playedBy]
    rw [drawnIn_append, playedIn_append, (added guest.nickname).1, (added guest.nickname).2]
    rcases counts guest member' other with ⟨hand, held, count⟩
    -- What is said about the actor accounts for the change; for everybody else nothing is counted.
    by_cases acts : guest.player = actor.player
    · have same := distinct.player member' member acts
      subst same
      rcases done.counts held guest.nickname with ⟨rest, left, change⟩
      refine ⟨rest, left, ?_⟩
      simp only [other, decide_false]
      omega
    · have different : guest.nickname ≠ actor.nickname := by
        intro same
        exact acts (congrArg Guest.player (distinct.nickname member' member same))
      have none := @Deed.counts_of_ne deed (actor.player = me) _ _ (.inr different.symm)
      refine ⟨hand, by rw [done.others _ acts, held], ?_⟩
      rw [none.1, none.2]
      exact count

/-- Whatever is said that does not concern the hands does not change what is known of them. -/
theorem KnowsGame.of_same {game : Game} (knows : KnowsGame me scene game account)
    (nonempty : account ≠ []) {after : Game}
    (turn : lastTurn? (account ++ later) = next.turn?)
    (hand : later.foldl Word.onHand (handIn account) = handIn account)
    (played : ∀ nickname, playedIn later nickname = 0)
    (drawn : ∀ nickname, drawnIn later nickname = 0)
    (guests : ∀ guest ∈ next.guests, ∃ other ∈ scene.guests, other.player = guest.player ∧
      other.nickname = guest.nickname ∧ after.hand? guest.player = game.hand? guest.player)
    (own : after.hand? me = game.hand? me) : KnowsGame me next after (account ++ later) := by
  refine ⟨turn, ?_, ?_⟩
  · rw [handIn_append nonempty, hand, own]
    exact knows.own
  · intro starts
    rw [List.head?_append_of_ne_nil _ nonempty] at starts
    rcases knows.others starts with ⟨dealt, known, counts⟩
    refine ⟨dealt, by rw [dealtIn?_append, known]; rfl, ?_⟩
    intro guest member other
    rcases guests guest member with ⟨earlier, member', player, nickname, kept⟩
    rw [← player] at other
    rcases counts earlier member' other with ⟨hand, held, count⟩
    rw [player] at held
    rw [drawnIn_append, playedIn_append, drawn, played, ← nickname]
    exact ⟨hand, kept.trans held, count⟩

theorem KnowsGame.talk {game : Game} (knows : KnowsGame me scene game account)
    (nonempty : account ≠ []) (idle : ∀ word ∈ later, word.IsTalk) :
    KnowsGame me scene game (account ++ later) := by
  refine knows.of_same nonempty ?_ (foldl_onHand_of_talk idle _) (playedIn_of_talk idle)
    (drawnIn_of_talk idle) (fun guest member => ⟨guest, member, rfl, rfl, rfl⟩) rfl
  rw [lastTurn?_append, lastTurn?_of_talk idle]
  exact knows.turn

theorem KnowsGame.picture {game : Game} (knows : KnowsGame me scene game account)
    (nonempty : account ≠ []) {notice : Notice} (pictured : scene.Pictured me notice) :
    KnowsGame me scene game (account ++ [.said notice]) := by
  refine knows.of_same nonempty ?_ ?_ ?_ ?_ (fun guest member => ⟨guest, member, rfl, rfl, rfl⟩) rfl
  · rw [lastTurn?_append, knows.turn]
    cases pictured with
    | room | state => rfl
    | game => cases turn : scene.turn? <;> simp [lastTurn?, Word.turn?]
  · cases pictured <;> rfl
  · cases pictured <;> exact fun _ => rfl
  · cases pictured <;> exact fun _ => rfl

theorem KnowsGame.quit {game after : Game} (knows : KnowsGame me scene game account)
    (nonempty : account ≠ []) {leaver : Guest} (other : leaver.player ≠ me)
    (hands : ∀ player, player ≠ leaver.player → after.hand? player = game.hand? player)
    {turn : TurnView} (next : (scene.without leaver.player (some after)).turn? = some turn) :
    KnowsGame me (scene.without leaver.player (some after)) after
      (account ++ [.said (.leave leaver.nickname), .said (.turn turn)]) := by
  refine knows.of_same nonempty ?_ rfl (fun _ => rfl) (fun _ => rfl) ?_ (hands me (Ne.symm other))
  · rw [lastTurn?_append, next]
    rfl
  · intro guest member
    rcases List.mem_filter.1 member with ⟨stays, apart⟩
    exact ⟨guest, stays, rfl, rfl, hands _ (by simpa using apart)⟩

theorem KnowsGame.doze {game : Game} (knows : KnowsGame me scene game account)
    (nonempty : account ≠ []) {guest : Guest} {awake : Bool}
    (words_eq : later = if guest.player = me then []
      else [.said (if awake then .awake guest.nickname else .sleep guest.nickname)]) :
    KnowsGame me (scene.told guest.player awake) game (account ++ later) := by
  have silent : lastTurn? later = none ∧ (∀ hand, later.foldl Word.onHand hand = hand) ∧
      (∀ nickname, playedIn later nickname = 0) ∧ ∀ nickname, drawnIn later nickname = 0 := by
    rw [words_eq]
    split
    · exact ⟨rfl, fun _ => rfl, fun _ => rfl, fun _ => rfl⟩
    · cases awake <;> exact ⟨rfl, fun _ => rfl, fun _ => rfl, fun _ => rfl⟩
  rcases silent with ⟨turn, hand, played, drawn⟩
  refine knows.of_same nonempty ?_ (hand _) played drawn ?_ rfl
  · rw [lastTurn?_append, turn, Scene.turn?_told]
    exact knows.turn
  · intro sitter member
    rcases List.mem_map.1 member with ⟨earlier, member', rfl⟩
    exact ⟨earlier, member', by simp⟩

theorem Sees.knowsTable (sees : Sees me scene later next) (nonempty : account ≠ [])
    (knows : KnowsTable me scene account) (still : ∀ word ∈ later, ¬word.Starts) :
    KnowsTable me next (account ++ later) := by
  intro game on
  cases sees with
  | talk idle => exact (knows game on).talk nonempty idle
  | picture pictured => exact (knows game on).picture nonempty pictured
  | join awake waiting => cases waiting.symm.trans on
  | start own alike turn => exact (still (.said .gameStart) List.mem_cons_self rfl).elim
  | act distinct on' member done idle turn =>
    cases on
    exact (knows _ on').act nonempty distinct member done idle turn
  | close calm | leave distinct member calm => cases on
  | quit distinct on' member other hands turn =>
    cases on
    exact (knows _ on').quit nonempty other hands turn
  | doze distinct member words_eq => exact (knows game on).doze nonempty words_eq

theorem Deed.not_showsGame_word (deed : Deed) (own : Bool) (nickname : String) :
    ¬(deed.word own nickname).ShowsGame := by
  cases deed <;> cases own <;> exact id

/-- A picture of a game shows it rightly. -/
theorem Scene.Pictured.followsTable {notice : Notice} (pictured : scene.Pictured me notice) :
    FollowsTable me scene [.said notice] := by
  intro before first rest split shows_game _ game on
  rcases List.append_eq_singleton_iff.1 split.symm with ⟨rfl, alone⟩ | ⟨_, none⟩
  · cases alone
    cases pictured with
    | room | state => exact shows_game.elim
    | game occupants own =>
      refine ⟨?_, own game on, ?_⟩
      · cases turn : scene.turn? <;> simp [lastTurn?, Word.turn?]
      · intro starts
        cases starts
  · cases none

/-- What is told at the start of a game shows it rightly: everybody has been dealt as many cards. -/
theorem followsTable_of_start {game : Game} {hand : List Card} {turn : TurnView}
    (own : game.hand? me = some hand)
    (alike : ∀ guest ∈ scene.guests, ∃ other, game.hand? guest.player = some other ∧
      other.length = hand.length)
    (shows_turn : ({ scene with game := some game } : Scene).turn? = some turn) :
    FollowsTable me { scene with game := some game }
      [.said .gameStart, .said (.hand hand), .said (.turn turn)] := by
  intro before first rest split shows_game _ game' on
  cases on
  -- The hand and the turn that follow open no account of their own.
  cases before with
  | nil =>
    cases split
    refine ⟨shows_turn.symm, own, ?_⟩
    intro _
    refine ⟨hand.length, rfl, ?_⟩
    intro guest member _
    rcases alike guest member with ⟨other, held, length⟩
    exact ⟨other, held, by simp [drawnIn, playedIn, Word.drawnBy, Word.playedBy, length]⟩
  | cons head before =>
    have behind : first ∈ [Word.said (.hand hand), .said (.turn turn)] := by
      rw [(List.cons.inj split).2]
      simp
    simp only [List.mem_cons, List.not_mem_nil, or_false] at behind
    rcases behind with rfl | rfl <;> exact shows_game.elim

/-- Only the start of a game and a picture of one open an account. -/
theorem Sees.followsTable (sees : Sees me scene later next) : FollowsTable me next later := by
  cases sees with
  | talk idle => exact accounts_of_not_opens fun word member => (idle word member).not_showsGame
  | picture pictured => exact pictured.followsTable
  | join awake waiting =>
    apply accounts_of_not_opens
    simp [Word.ShowsGame]
  | start own alike shows_turn => exact followsTable_of_start own alike shows_turn
  | @act game after actor deed words turn distinct on member done idle turn' =>
    apply accounts_of_not_opens
    intro word member'
    rcases List.mem_append.1 member' with told | last
    · rcases List.mem_cons.1 told with rfl | idle'
      · exact deed.not_showsGame_word _ _
      · exact (idle word idle').not_showsGame
    · rw [List.mem_singleton.1 last]
      exact id
  | close calm | leave distinct member calm => exact followsTable_of_idle rfl _
  | quit distinct on member other hands turn =>
    apply accounts_of_not_opens
    simp [Word.ShowsGame]
  | @doze guest awake words distinct member words_eq =>
    apply accounts_of_not_opens
    rw [words_eq]
    split
    · simp
    · cases awake <;> simp [Word.ShowsGame]

/-- Whatever a client sees, it follows the table. -/
theorem FollowsTable.sees (follows : FollowsTable me scene words)
    (sees : Sees me scene later next) : FollowsTable me next (words ++ later) :=
  Accounts.append follows (fun _ nonempty knows still => sees.knowsTable nonempty knows still)
    sees.followsTable

end CardTable
