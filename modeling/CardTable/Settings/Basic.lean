import CardTable.Server.Config
import CardTable.Settings.CommandLine
import CardTable.Settings.Toml.Parser

/-!
# Settings

What a server is started with: a configuration file says what it wants to, the command line
overrides it, and everything else is as usual.
-/

namespace CardTable

def RoomConfig.settingNames : List String := ["capacity", "hand_size"]

def RoomConfig.ofDocument? (document : Document) : Option RoomConfig := do
  let group ← document.group? settingNames
  let usual : RoomConfig := {}
  return {
    capacity := ← Document.setting group Document.number? "capacity" usual.capacity
    handSize := ← Document.setting group Document.number? "hand_size" usual.handSize }

def ServerConfig.settingNames : List String :=
  ["bind_address", "max_events", "poll_timeout_ms", "max_clients", "max_rooms", "room_capacity",
    "hand_size", "ping_interval_ms", "sleep_after_ms", "dead_after_ms", "max_buffered_bytes",
    "read_chunk"]

def ServerConfig.ofDocument? (document : Document) : Option ServerConfig := do
  let group ← document.group? settingNames
  let number := Document.setting group Document.number?
  return {
    bindAddress := ← Document.setting group Document.text? "bind_address" standard.bindAddress
    maxEvents := ← number "max_events" standard.maxEvents
    pollTimeout := ← number "poll_timeout_ms" standard.pollTimeout
    maxClients := ← number "max_clients" standard.maxClients
    maxRooms := ← number "max_rooms" standard.maxRooms
    roomCapacity := ← number "room_capacity" standard.roomCapacity
    handSize := ← number "hand_size" standard.handSize
    pingInterval := ← number "ping_interval_ms" standard.pingInterval
    sleepAfter := ← number "sleep_after_ms" standard.sleepAfter
    deadAfter := ← number "dead_after_ms" standard.deadAfter
    maxBufferedBytes := ← number "max_buffered_bytes" standard.maxBufferedBytes
    readChunk := ← number "read_chunk" standard.readChunk }

/-- How the server keeps its log. -/
structure LogSettings where
  level : String := "info"
  json : Bool := false
  deriving DecidableEq, Repr

def LogSettings.settingNames : List String := ["level", "json"]

def LogSettings.ofDocument? (document : Document) : Option LogSettings := do
  let group ← document.group? settingNames
  let usual : LogSettings := {}
  return {
    level := ← Document.setting group Document.text? "level" usual.level
    json := ← Document.setting group Document.flag? "json" usual.json }

/-- What a server is started with. -/
structure Settings where
  server : ServerConfig := {}
  logging : LogSettings := {}
  deriving DecidableEq, Repr

/-- Why there are no settings. -/
inductive SettingsError
  | unreadable
  | invalid
  deriving DecidableEq, Repr

/-- What is said about a configuration file that gives no settings. -/
def SettingsError.message (file : String) : SettingsError → String
  | unreadable => s!"cannot read {file}"
  | invalid => s!"invalid configuration in {file}"

namespace Settings

def ofDocument? (document : Document) : Option Settings := do
  let group ← document.group? ["server", "logging"]
  return {
    server := ← Document.setting group ServerConfig.ofDocument? "server" {}
    logging := ← Document.setting group LogSettings.ofDocument? "logging" {} }

def ofToml (content : String) : Except SettingsError Settings :=
  match (Toml.parse? content).bind ofDocument? with
  | some settings => .ok settings
  | none => .error .invalid

/-- The settings with what the command line says in place of what they say. -/
def override (settings : Settings) (arguments : CommandLine.Arguments) : Settings where
  server := { settings.server with
    bindAddress := arguments.bind.getD settings.server.bindAddress }
  logging := {
    level := arguments.logLevel.getD settings.logging.level
    json := arguments.jsonLogs || settings.logging.json }

/-- The settings of a server that is started without a configuration file. -/
def withoutFile (arguments : CommandLine.Arguments) : Settings :=
  override {} arguments

/-- The settings of a server that is started with a configuration file, whose content is given if it
could be read. -/
def withFile (arguments : CommandLine.Arguments) (content : Option String) :
    Except SettingsError Settings :=
  match content with
  | none => .error .unreadable
  | some content => (ofToml content).map (·.override arguments)

end Settings

end CardTable
