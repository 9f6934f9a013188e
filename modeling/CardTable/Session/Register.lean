import CardTable.Directory
import CardTable.Session.Basic

/-!
# The register of sessions

All live sessions, filed by connection, with an index by nickname and one by player. A nickname
belongs to at most one session; a session that takes over another one takes its entries in both
indexes along.
-/

namespace CardTable

/-- A notice on its way to a connection. -/
structure Delivery where
  connection : ConnectionId
  notice : Notice
  deriving DecidableEq, Repr

structure Sessions where
  config : SessionConfig
  live : Directory ConnectionId Session
  byName : Directory String ConnectionId
  byPlayer : Directory PlayerId ConnectionId

/-- What a look at every clock brought: the sessions after it, those that are due a ping, and what
others have to be told of, in the order of the connections. -/
structure Beat where
  sessions : Sessions
  pings : List ConnectionId
  events : List (ConnectionId × LivenessEvent)

namespace Sessions

def vacant (config : SessionConfig) : Sessions where
  config := config
  live := .empty
  byName := .empty
  byPlayer := .empty

def count (sessions : Sessions) : Nat :=
  sessions.live.size

def get? (sessions : Sessions) (id : ConnectionId) : Option Session :=
  sessions.live.get? id

def findName? (sessions : Sessions) (nickname : String) : Option ConnectionId :=
  sessions.byName.get? nickname

def findPlayer? (sessions : Sessions) (player : PlayerId) : Option ConnectionId :=
  sessions.byPlayer.get? player

def modify (sessions : Sessions) (id : ConnectionId) (change : Session → Session) : Sessions :=
  { sessions with live := sessions.live.modify id change }

def put (sessions : Sessions) (session : Session) : Sessions :=
  sessions.modify session.id fun _ => session

/-- Opens a session for a new connection. A connection that has one already keeps it. -/
def connect (sessions : Sessions) (id : ConnectionId) (now : Nanos) : Sessions :=
  if sessions.live.contains id then sessions
  else { sessions with live := sessions.live.insert id (.fresh id now) }

/-- The directory without a key, if what is filed under it is the given connection. -/
def release {κ : Type} [LT κ] [DecidableEq κ] (index : Directory κ ConnectionId)
    (key : Option κ) (id : ConnectionId) : Directory κ ConnectionId :=
  match key with
  | some key => if index.get? key = some id then index.erase key else index
  | none => index

/-- Ends a session and hands it out; its nickname is free again. -/
def close (sessions : Sessions) (id : ConnectionId) : Option Session × Sessions :=
  match sessions.get? id with
  | none => (none, sessions)
  | some session =>
    (some session, { sessions with
      live := sessions.live.erase id
      byName := release sessions.byName session.nickname? id
      byPlayer := release sessions.byPlayer session.player? id })

/-- Enters the identity of a connection into both indexes. -/
def enter (sessions : Sessions) (id : ConnectionId) (identity : Identity) : Sessions :=
  { sessions with
    byName := sessions.byName.insert identity.nickname id
    byPlayer := sessions.byPlayer.insert identity.player id }

/-- Gives a session its identity, unless the nickname is taken. -/
def name (sessions : Sessions) (id : ConnectionId) (identity : Identity) :
    Except SessionError Sessions :=
  if sessions.byName.contains identity.nickname then .error (.nicknameTaken identity.nickname)
  else
    match sessions.get? id with
    | none => .error (.notFound id)
    | some session =>
      match session.assign identity with
      | .error error => .error error
      | .ok named => .ok ((sessions.put named).enter id identity)

/--
Lets the session of `new` take over the identity and the place of the session of `old`, which ends.
Hands out the ended session, stripped of what was taken over.
-/
def reclaim (sessions : Sessions) (old new : ConnectionId) :
    Except SessionError (Session × Sessions) :=
  match sessions.get? new with
  | none => .error (.notFound new)
  | some heir =>
    if heir.identity.isSome then .error (.alreadyNamed new)
    else
      match sessions.get? old with
      | none => .error (.notFound old)
      | some previous =>
        if old = new then .error (.notFound new)
        else
          let rest := { sessions with live := sessions.live.erase old }
          let moved := rest.put (heir.inherit previous)
          .ok (previous.stripped, match previous.identity with
            | some identity => moved.enter new identity
            | none => moved)

def bytesFor (mail : List Delivery) (id : ConnectionId) : Bytes :=
  (mail.filter fun delivery => delivery.connection = id).flatMap fun delivery =>
    delivery.notice.bytes

/-- Queues each notice at its connection, in order. -/
def deliver (sessions : Sessions) (mail : List Delivery) : Sessions :=
  { sessions with
    live := sessions.live.mapEntries fun id session =>
      { session with outgoing := session.outgoing ++ bytesFor mail id } }

/-- Queues a notice for a player, and says whether anybody carries the player. -/
def sendToPlayer (sessions : Sessions) (player : PlayerId) (notice : Notice) : Bool × Sessions :=
  match sessions.findPlayer? player with
  | none => (false, sessions)
  | some id => (sessions.live.contains id, sessions.modify id (·.send notice))

/-- Looks at every session's clock: whether a ping is due, and how long it has been silent. -/
def beat (sessions : Sessions) (now : Nanos) : Beat :=
  let looked := sessions.live.mapEntries fun _ session =>
    let due := session.pingDue sessions.config now
    (due.1, due.2.check sessions.config now)
  { sessions := { sessions with live := looked.mapEntries fun _ look => look.2.2 }
    pings := looked.entries.filterMap fun (id, look) => if look.1 then some id else none
    events := looked.entries.filterMap fun (id, look) => look.2.1.map (id, ·) }

/-- Looks at every session's clock and queues the pings that are due. -/
def sweep (sessions : Sessions) (now : Nanos) :
    List (ConnectionId × LivenessEvent) × Sessions :=
  let beat := sessions.beat now
  (beat.events, beat.sessions.deliver (beat.pings.map ({ connection := ·, notice := .ping })))

end Sessions

end CardTable
