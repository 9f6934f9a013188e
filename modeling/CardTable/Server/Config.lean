import CardTable.Room.Basic
import CardTable.Session.Basic

/-!
# Server configuration

Every setting of the server as one value. `ServerConfig.validated` replaces settings that no server
can work with; `ServerConfig.Usable` says which configurations need no correction.
-/

namespace CardTable

/-- All settings of a server. Times are in milliseconds. -/
structure ServerConfig where
  bindAddress : String := "0.0.0.0:3750"
  /-- The most readiness events that one poll reports. -/
  maxEvents : Nat := 32
  /-- The longest that one poll waits, and so the longest between two looks at the clocks. -/
  pollTimeout : Millis := 500
  maxClients : Nat := 10
  maxRooms : Nat := 10
  roomCapacity : Nat := 2
  handSize : Nat := 4
  pingInterval : Millis := 2000
  sleepAfter : Millis := 5000
  deadAfter : Millis := 180000
  /-- How many bytes of a client may wait to be read as frames. -/
  maxBufferedBytes : Nat := 1000000
  /-- How many bytes are read at once. -/
  readChunk : Nat := 1024
  deriving DecidableEq, Repr

namespace ServerConfig

/-- The configuration in which nothing is set. -/
def standard : ServerConfig := {}

instance : Inhabited ServerConfig := ⟨standard⟩

def thresholds (config : ServerConfig) : Thresholds where
  ping := .ofMillis config.pingInterval
  sleep := .ofMillis config.sleepAfter
  dead := .ofMillis config.deadAfter

def session (config : ServerConfig) : SessionConfig where
  thresholds := config.thresholds
  backlogLimit := config.maxBufferedBytes
  readChunk := config.readChunk

def room (config : ServerConfig) : RoomConfig where
  capacity := config.roomCapacity
  handSize := config.handSize

/-- The most players that one deck can be dealt to. -/
def largestRoom : Nat := standardDeck.length - 2

/-- A value, or another one in place of zero. -/
def orIfZero (value fallback : Nat) : Nat :=
  if value = 0 then fallback else value

/-- A value, or the bound that it is beyond. -/
def clamp (value low high : Nat) : Nat :=
  if value < low then low else if high < value then high else value

/-- As many seats as wanted, but two or more, and no more than one deck can be dealt to. -/
def playableCapacity (wanted : Nat) : Nat :=
  let some_players := if wanted < 2 then 2 else wanted
  if largestRoom < some_players then largestRoom else some_players

/-- Hands as large as wanted, if one deck can be dealt to so many players in them. -/
def playableHand (capacity wanted : Nat) : Nat :=
  let largest := (standardDeck.length - 2) / capacity
  if wanted = 0 ∨ largest < wanted then clamp wanted 1 largest else wanted

/-- The configuration with rooms that can hold a game. -/
def withPlayableRooms (config : ServerConfig) : ServerConfig :=
  let capacity := playableCapacity config.roomCapacity
  { config with
    roomCapacity := capacity
    handSize := playableHand capacity config.handSize }

/-- The configuration without limits of zero, and with room for one read in the backlog. -/
def withPositiveLimits (config : ServerConfig) : ServerConfig :=
  let chunk := orIfZero config.readChunk standard.readChunk
  { config with
    maxRooms := orIfZero config.maxRooms standard.maxRooms
    maxClients := orIfZero config.maxClients standard.maxClients
    maxEvents := orIfZero config.maxEvents standard.maxEvents
    pollTimeout := orIfZero config.pollTimeout standard.pollTimeout
    readChunk := chunk
    maxBufferedBytes := max config.maxBufferedBytes chunk }

/-- The configuration with thresholds of silence in order: its own, or else the usual ones. -/
def withOrderedThresholds (config : ServerConfig) : ServerConfig :=
  if config.thresholds.Ordered then config
  else { config with
    pingInterval := standard.pingInterval
    sleepAfter := standard.sleepAfter
    deadAfter := standard.deadAfter }

/-- The configuration with every senseless setting replaced. -/
def validated (config : ServerConfig) : ServerConfig :=
  config.withPlayableRooms.withPositiveLimits.withOrderedThresholds

/-- A configuration that a server can work with as it is. -/
structure Usable (config : ServerConfig) : Prop where
  two_le_capacity : 2 ≤ config.roomCapacity
  capacity_le : config.roomCapacity ≤ 30
  hand_pos : 1 ≤ config.handSize
  hand_le : config.handSize ≤ 30 / config.roomCapacity
  rooms_pos : 0 < config.maxRooms
  clients_pos : 0 < config.maxClients
  events_pos : 0 < config.maxEvents
  timeout_pos : 0 < config.pollTimeout
  chunk_pos : 0 < config.readChunk
  chunk_le : config.readChunk ≤ config.maxBufferedBytes
  ordered : config.thresholds.Ordered

end ServerConfig

end CardTable
