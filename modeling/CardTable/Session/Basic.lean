import CardTable.Session.Liveness
import CardTable.Session.Transfer
import CardTable.Wire.Notice
import CardTable.Wire.Request

/-!
# Sessions

One session for each live connection: who it is, where it stands, what has come in without being
read as frames yet, what is still to be sent, and how long it has been silent. What a frame means is
not decided here.
-/

namespace CardTable

/-- What all sessions have in common. -/
structure SessionConfig where
  thresholds : Thresholds := {}
  /-- How many bytes may wait to be read as frames. -/
  backlogLimit : Nat := 1000000
  /-- How many bytes are read at once; none counts as one. -/
  readChunk : Nat := 1024
  deriving DecidableEq, Repr

/-- Who a session is: a nickname and the player behind it. -/
structure Identity where
  nickname : String
  player : PlayerId
  deriving DecidableEq, Repr

/-- Where a session stands. What it may ask for depends on it. -/
inductive Location
  | unnamed
  /-- With a nickname but without a seat. -/
  | lobby
  /-- In a room that waits for players. -/
  | room (room : RoomId)
  /-- In a room whose game is on or over. -/
  | game (room : RoomId)
  deriving DecidableEq, Repr

def Location.room? : Location → Option RoomId
  | unnamed | lobby => none
  | room id | game id => some id

/-- The session of one connection. -/
structure Session where
  id : ConnectionId
  identity : Option Identity
  location : Location
  /-- What has come in and has not been read as frames. -/
  incoming : Bytes
  /-- What is still to be sent. -/
  outgoing : Bytes
  presence : Presence
  deriving DecidableEq, Repr

/-- What one call of `Session.receive` brought. -/
structure Traffic where
  bytes : Nat
  /-- The session slept and is awake now. -/
  woke : Bool
  deriving DecidableEq, Repr

/-- What one attempt to send brought: the session after it, and whether nothing is left to send. -/
structure Transmission where
  session : Session
  drained : Except SessionError Bool

namespace Session

def fresh (id : ConnectionId) (now : Nanos) : Session where
  id := id
  identity := none
  location := .unnamed
  incoming := []
  outgoing := []
  presence := .fresh now

def nickname? (session : Session) : Option String :=
  session.identity.map Identity.nickname

def player? (session : Session) : Option PlayerId :=
  session.identity.map Identity.player

def isAwake (session : Session) : Bool :=
  session.presence.liveness = .awake

/-- Gives the session its identity and moves it to the lobby. An identity is given only once. -/
def assign (session : Session) (identity : Identity) : Except SessionError Session :=
  match session.identity with
  | some _ => .error (.alreadyNamed session.id)
  | none => .ok { session with identity := some identity, location := .lobby }

def stripped (session : Session) : Session :=
  { session with identity := none, location := .unnamed }

/-- The session with the identity and the place of another one. -/
def inherit (session previous : Session) : Session :=
  { session with identity := previous.identity, location := previous.location }

/-! ## Reading -/

/-- Takes in all that the connection has. Anything that comes in ends the silence, unless reading
fails. -/
def receive (config : SessionConfig) (arrivals : List Arrival) (now : Nanos) (session : Session) :
    Except SessionError Traffic × Session :=
  let intake := Intake.read (config.readChunk - 1) config.backlogLimit
    (config.backlogLimit - session.incoming.length) arrivals
  let filled := { session with incoming := session.incoming ++ intake.received }
  match intake.failure with
  | some error => (.error error, filled)
  | none =>
    if intake.received = [] then (.ok { bytes := 0, woke := false }, filled)
    else
      let touched := session.presence.touch now
      (.ok { bytes := intake.received.length, woke := touched.1 },
        { filled with presence := touched.2 })

/-- Takes the frames that are there whole out of the incoming bytes. -/
def takeFrames (session : Session) : Except SessionError (List Wire.Frame) × Session :=
  let read := Wire.readFrames session.incoming
  (read.1.mapError .protocol, { session with incoming := read.2 })

/-! ## Writing -/

def enqueue (session : Session) (text : String) : Session :=
  { session with outgoing := session.outgoing ++ Wire.bytesOf text }

def send (session : Session) (notice : Notice) : Session :=
  session.enqueue notice.line

def wantsWrite (session : Session) : Bool :=
  session.outgoing ≠ []

/-- The session after the first `count` bytes were sent. -/
def sent (session : Session) (count : Nat) : Transmission where
  session := { session with outgoing := session.outgoing.drop count }
  drained := .ok (session.outgoing.drop count = [])

def unsent (session : Session) (drained : Except SessionError Bool) : Transmission where
  session := session
  drained := drained

/-- Offers what is to be sent to the connection, once. Taking none of it is an error. -/
def transmit (session : Session) (uptake : Uptake) : Transmission :=
  if session.outgoing = [] then session.unsent (.ok true)
  else
    match uptake.answer session.outgoing with
    | .ok 0 => session.unsent (.error (.io "write zero"))
    | .ok count => session.sent count
    | .error (.broken message) => session.unsent (.error (.io message))
    | .error _ => session.unsent (.ok false)

/-! ## Silence -/

/-- Records that something came in, and says whether it woke the session. -/
def touch (session : Session) (now : Nanos) : Bool × Session :=
  let touched := session.presence.touch now
  (touched.1, { session with presence := touched.2 })

def pingDue (config : SessionConfig) (session : Session) (now : Nanos) : Bool × Session :=
  let due := session.presence.pingDue config.thresholds now
  (due.1, { session with presence := due.2 })

def check (config : SessionConfig) (session : Session) (now : Nanos) :
    Option LivenessEvent × Session :=
  let checked := session.presence.check config.thresholds now
  (checked.1, { session with presence := checked.2 })

end Session

end CardTable
