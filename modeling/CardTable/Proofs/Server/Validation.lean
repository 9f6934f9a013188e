import CardTable.Proofs.Game.Distribution
import CardTable.Proofs.Game.Hands
import CardTable.Server.Config

/-!
# Validation of the configuration

Validation replaces the settings that no server can work with, one after the other, and a later
setting is held against those that are corrected already: the hand against the seats of a room, the
backlog against what is read at once. The result is usable whatever was given, a setting is replaced
only if it has to be, and the games of a usable configuration can be dealt as they are configured.
-/

namespace CardTable.ServerConfig

variable {config : ServerConfig}

/-! ## Single settings -/

theorem orIfZero_pos {fallback : Nat} (positive : 0 < fallback) (value : Nat) :
    0 < orIfZero value fallback := by
  unfold orIfZero
  split <;> omega

theorem orIfZero_eq_iff {value fallback : Nat} (positive : 0 < fallback) :
    orIfZero value fallback = value ↔ 0 < value := by
  unfold orIfZero
  split <;> omega

theorem two_le_playableCapacity (wanted : Nat) : 2 ≤ playableCapacity wanted := by
  have large : 2 ≤ largestRoom := by decide
  simp only [playableCapacity]
  split <;> split <;> omega

theorem playableCapacity_le (wanted : Nat) : playableCapacity wanted ≤ 30 := by
  have large : largestRoom = 30 := by decide
  simp only [playableCapacity]
  split <;> split <;> omega

theorem playableCapacity_eq_iff {wanted : Nat} :
    playableCapacity wanted = wanted ↔ 2 ≤ wanted ∧ wanted ≤ 30 := by
  have large : largestRoom = 30 := by decide
  simp only [playableCapacity]
  split <;> split <;> omega

theorem largestHand_playableCapacity (wanted : Nat) :
    Game.largestHand (playableCapacity wanted) ≠ 0 :=
  Game.largestHand_ne_zero (Nat.zero_lt_of_lt (two_le_playableCapacity wanted))
    (playableCapacity_le wanted)

/-- Where one deck can be dealt at all, the hands that are configured are those that are dealt. -/
theorem playableHand_eq {capacity : Nat} (fits : Game.largestHand capacity ≠ 0) (wanted : Nat) :
    playableHand capacity wanted = Game.handSize capacity wanted := by
  rw [playableHand, ← Game.largestHand, Game.handSize, clamp]
  split
  · split
    · omega
    · split <;> omega
  · omega

/-! ## The corrected configuration -/

/-- The configuration whose thresholds count in the end. -/
def timing (config : ServerConfig) : ServerConfig :=
  if config.thresholds.Ordered then config else standard

theorem ordered_timing (config : ServerConfig) : config.timing.thresholds.Ordered := by
  unfold timing
  split
  · next ordered => exact ordered
  · decide

/-- All corrections at once. -/
theorem validated_eq (config : ServerConfig) :
    config.validated =
      let capacity := playableCapacity config.roomCapacity
      let chunk := orIfZero config.readChunk 1024
      { bindAddress := config.bindAddress
        maxEvents := orIfZero config.maxEvents 32
        pollTimeout := orIfZero config.pollTimeout 500
        maxClients := orIfZero config.maxClients 10
        maxRooms := orIfZero config.maxRooms 10
        roomCapacity := capacity
        handSize := Game.handSize capacity config.handSize
        pingInterval := config.timing.pingInterval
        sleepAfter := config.timing.sleepAfter
        deadAfter := config.timing.deadAfter
        maxBufferedBytes := max config.maxBufferedBytes chunk
        readChunk := chunk } := by
  have same : config.withPlayableRooms.withPositiveLimits.thresholds = config.thresholds := rfl
  dsimp only
  rw [← playableHand_eq (largestHand_playableCapacity config.roomCapacity), validated,
    withOrderedThresholds, same, timing]
  by_cases ordered : config.thresholds.Ordered
  · simp only [if_pos ordered]
    rfl
  · simp only [if_neg ordered]
    rfl

theorem usable_validated (config : ServerConfig) : config.validated.Usable := by
  rw [validated_eq]
  exact {
    two_le_capacity := two_le_playableCapacity config.roomCapacity
    capacity_le := playableCapacity_le config.roomCapacity
    hand_pos := Game.one_le_handSize _ _
    hand_le := Game.handSize_le config.handSize (largestHand_playableCapacity config.roomCapacity)
    rooms_pos := orIfZero_pos (by decide) _
    clients_pos := orIfZero_pos (by decide) _
    events_pos := orIfZero_pos (by decide) _
    timeout_pos := orIfZero_pos (by decide) _
    chunk_pos := orIfZero_pos (by decide) _
    chunk_le := Nat.le_max_right _ _
    ordered := config.ordered_timing }

/-- A later configuration keeps exactly those settings that are sound already. The hand is held
against the later rooms and the backlog against the later reads; the thresholds count as one. -/
structure KeepsSound (config later : ServerConfig) : Prop where
  bindAddress : later.bindAddress = config.bindAddress
  roomCapacity : later.roomCapacity = config.roomCapacity ↔
    2 ≤ config.roomCapacity ∧ config.roomCapacity ≤ 30
  handSize : later.handSize = config.handSize ↔
    1 ≤ config.handSize ∧ config.handSize ≤ 30 / later.roomCapacity
  maxRooms : later.maxRooms = config.maxRooms ↔ 0 < config.maxRooms
  maxClients : later.maxClients = config.maxClients ↔ 0 < config.maxClients
  maxEvents : later.maxEvents = config.maxEvents ↔ 0 < config.maxEvents
  pollTimeout : later.pollTimeout = config.pollTimeout ↔ 0 < config.pollTimeout
  readChunk : later.readChunk = config.readChunk ↔ 0 < config.readChunk
  maxBufferedBytes : later.maxBufferedBytes = config.maxBufferedBytes ↔
    later.readChunk ≤ config.maxBufferedBytes
  thresholds : later.thresholds = config.thresholds ↔ config.thresholds.Ordered

theorem keepsSound_validated (config : ServerConfig) : config.KeepsSound config.validated := by
  rw [validated_eq]
  exact {
    bindAddress := rfl
    roomCapacity := playableCapacity_eq_iff
    handSize := Game.handSize_eq_iff (largestHand_playableCapacity config.roomCapacity)
    maxRooms := orIfZero_eq_iff (by decide)
    maxClients := orIfZero_eq_iff (by decide)
    maxEvents := orIfZero_eq_iff (by decide)
    pollTimeout := orIfZero_eq_iff (by decide)
    readChunk := orIfZero_eq_iff (by decide)
    maxBufferedBytes :=
      ⟨fun same => (Nat.le_max_right _ _).trans_eq same, Nat.max_eq_left⟩
    thresholds := by
      refine ⟨fun same => same ▸ config.ordered_timing, fun ordered => ?_⟩
      have kept : config.timing.thresholds = config.thresholds := by rw [timing, if_pos ordered]
      exact kept }

/-- Nothing in a usable configuration is corrected. -/
theorem KeepsSound.eq_of_usable {later : ServerConfig} (keeps : config.KeepsSound later)
    (usable : config.Usable) : later = config := by
  have room := keeps.roomCapacity.2 ⟨usable.two_le_capacity, usable.capacity_le⟩
  have chunk := keeps.readChunk.2 usable.chunk_pos
  have hand := keeps.handSize.2 ⟨usable.hand_pos, room ▸ usable.hand_le⟩
  have backlog := keeps.maxBufferedBytes.2 (chunk ▸ usable.chunk_le)
  have thresholds := keeps.thresholds.2 usable.ordered
  simp only [ServerConfig.thresholds, Thresholds.mk.injEq, Nanos.ofMillis_inj] at thresholds
  rcases thresholds with ⟨ping, sleep, dead⟩
  obtain ⟨⟩ := later
  obtain ⟨⟩ := config
  rw [mk.injEq]
  exact ⟨keeps.bindAddress, keeps.maxEvents.2 usable.events_pos,
    keeps.pollTimeout.2 usable.timeout_pos, keeps.maxClients.2 usable.clients_pos,
    keeps.maxRooms.2 usable.rooms_pos, room, hand, ping, sleep, dead, backlog, chunk⟩

theorem validated_eq_self_iff : config.validated = config ↔ config.Usable :=
  ⟨fun same => same ▸ config.usable_validated, config.keepsSound_validated.eq_of_usable⟩

/-! ## Games of a usable configuration -/

theorem Usable.exists_deal (usable : config.Usable) {players : List PlayerId}
    (full : players.length = config.roomCapacity) (chance : Deal) :
    ∃ game, Game.deal players config.handSize chance = .ok game ∧
      game.DealtFrom (chance.deck.rearrange standardDeck) players config.handSize := by
  have two := usable.two_le_capacity
  have few := usable.capacity_le
  rw [← full] at two few
  rcases Game.exists_deal two few config.handSize chance with ⟨game, dealt, -⟩
  have size := (Game.handSize_eq_iff (Game.largestHand_ne_zero (by omega) few)).2
    ⟨usable.hand_pos, full ▸ usable.hand_le⟩
  refine ⟨game, dealt, ?_⟩
  have shown := Game.dealtFrom_of_deal dealt
  rwa [size] at shown

/-! ## The law -/

/-- Validation makes any configuration usable and replaces no setting that is sound already, so it
changes nothing in a usable configuration, and nothing when it is repeated. The games of a usable
configuration can be dealt: a full room gets hands of the configured size, whoever sits there and
however the deck is shuffled, and a card is left to be drawn. -/
theorem validation_exact :
    (∀ config : ServerConfig,
      config.validated.Usable ∧
      (config.validated = config ↔ config.Usable) ∧
      config.validated.validated = config.validated ∧
      config.KeepsSound config.validated) ∧
    ∀ config : ServerConfig, config.Usable → ∀ players : List PlayerId,
      players.length = config.roomCapacity → ∀ chance, ∃ game,
        Game.deal players config.handSize chance = .ok game ∧
        game.players = players ∧
        (∀ player ∈ players, ∃ hand ∈ game.hand? player, hand.length = config.handSize) ∧
        (∀ seat ∈ game.seats, seat.hand.length = config.handSize) ∧
        1 ≤ game.stock.deck.length := by
  refine ⟨fun config => ?_, fun config usable players full chance => ?_⟩
  · exact ⟨config.usable_validated, validated_eq_self_iff,
      validated_eq_self_iff.2 config.usable_validated, config.keepsSound_validated⟩
  · rcases usable.exists_deal full chance with ⟨game, dealt, shown⟩
    refine ⟨game, dealt, shown.seated, fun player member => ?_, shown.even, ?_⟩
    · rcases Game.exists_hand (shown.seated ▸ member) with ⟨seat, here, held⟩
      exact ⟨seat.hand, held, shown.even seat here⟩
    · rw [shown.left]
      exact shown.some_left

/-- The largest numbers everywhere, and thresholds that are not in order. -/
def extreme : ServerConfig where
  maxEvents := 0
  pollTimeout := 18446744073709551615
  maxClients := 0
  maxRooms := 18446744073709551615
  roomCapacity := 18446744073709551615
  handSize := 18446744073709551615
  pingInterval := 18446744073709551615
  sleepAfter := 18446744073709551615
  deadAfter := 18446744073709551615
  maxBufferedBytes := 0
  readChunk := 18446744073709551615

theorem validation_exact_of_extreme :
    extreme.validated.Usable ∧ (List.range 30).length = extreme.validated.roomCapacity ∧
      ∃ game, Game.deal (List.range 30) extreme.validated.handSize default = .ok game ∧
        (∀ seat ∈ game.seats, seat.hand.length = 1) ∧ 1 ≤ game.stock.deck.length := by
  have usable := (validation_exact.1 extreme).1
  have full : (List.range 30).length = extreme.validated.roomCapacity := by decide
  rcases validation_exact.2 _ usable (List.range 30) full default with
    ⟨game, dealt, -, -, even, left⟩
  exact ⟨usable, full, game, dealt, even, left⟩

end CardTable.ServerConfig
