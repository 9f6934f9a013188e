import CardTable.Server.Address
import CardTable.Server.Loop

/-!
# A network of clients

The whole server together with clients at the other ends of its connections. Nothing here takes
time except waiting: what a client does reaches the server in a round of its own, and what the
server says in a round reaches its clients in the next one, at the same moment. A client that waits
lets rounds pass, each as long as one poll of the server.
-/

namespace CardTable

/-- A running server, the time, and what the clients have received and not read. -/
structure Network where
  loop : Loop
  now : Nanos
  inboxes : Directory ConnectionId Bytes

namespace Network

/-- A server without clients, if it can listen on its address. -/
def start? (config : ServerConfig) (deals : List Deal) : Option Network :=
  if Address.isListenable config.bindAddress then
    some { loop := .start config deals, now := 0, inboxes := .empty }
  else none

def isOpen (network : Network) (id : ConnectionId) : Bool :=
  network.loop.board.isOpen id

def inbox (network : Network) (id : ConnectionId) : Bytes :=
  (network.inboxes.get? id).getD []

def round (network : Network) (events : List Event) : Network :=
  let (taken, loop) := network.loop.tick events network.now
  { network with
    loop
    inboxes := taken.foldl (fun inboxes (id, bytes) => inboxes.modify id (· ++ bytes))
      network.inboxes }

/-- A round in which every connection takes what there is for it. -/
def flush (network : Network) : Network :=
  network.round (network.loop.board.writers.map fun id => .ready id { writable := true })

/-- Something happens, and what the server says to it is received. -/
def after (network : Network) (events : List Event) : Network :=
  (network.round events).flush

def connect (network : Network) : Network :=
  let (id, board) := network.loop.board.register
  { network with
    loop := { network.loop with board }
    inboxes := network.inboxes.insert id [] }.after [.accepted id]

def arrive (network : Network) (id : ConnectionId) (arrival : Arrival) : Network :=
  network.after [.ready id { readable := true, arrivals := [arrival] }]

def send (network : Network) (id : ConnectionId) (bytes : Bytes) : Network :=
  match Arrival.ofBytes? bytes with
  | some arrival => network.arrive id arrival
  | none => network

/-- A client will send nothing more. -/
def halfClose (network : Network) (id : ConnectionId) : Network :=
  network.arrive id .closed

def drop (network : Network) (id : ConnectionId) : Network :=
  let next := network.arrive id .closed
  { next with inboxes := next.inboxes.erase id }

/-- Nothing happens for as long as one poll waits. -/
def idle (network : Network) : Network :=
  let wait := Nanos.ofMillis network.loop.server.config.pollTimeout
  { network with now := network.now + wait }.after []

/-- Lets polls pass until something is the case, but no more than the given number. -/
def waitFor (ready : Network → Bool) : Nat → Network → Network
  | 0, network => network
  | polls + 1, network => if ready network then network else waitFor ready polls network.idle

def patience : Millis := 5000

/-- How many polls pass while a client waits for its longest. -/
def polls (network : Network) : Nat :=
  patience / max network.loop.server.config.pollTimeout 1 + 1

/-- Cuts up to `count` whole lines off the front of bytes. The lines come without their ends. -/
def cutLines : Nat → Bytes → List Bytes × Bytes
  | 0, bytes => ([], bytes)
  | count + 1, bytes =>
    match bytes.dropWhile (· ≠ 0x0a) with
    | [] => ([], bytes)
    | _ :: rest =>
      let later := cutLines count rest
      (bytes.takeWhile (· ≠ 0x0a) :: later.1, later.2)

/-- A client reads its next lines, waiting for them while the connection is open. It gets fewer if
they do not come. -/
def receive (network : Network) (id : ConnectionId) (count : Nat) : List Bytes × Network :=
  let ready network := !network.isOpen id || (cutLines count (network.inbox id)).1.length = count
  let network := waitFor ready network.polls network
  let (lines, rest) := cutLines count (network.inbox id)
  (lines, { network with inboxes := network.inboxes.modify id fun _ => rest })

/-- A client waits for its connection to be closed. Says whether it was, with nothing more
received. -/
def awaitClose (network : Network) (id : ConnectionId) : Bool × Network :=
  let ready network := !network.isOpen id || network.inbox id ≠ []
  let network := waitFor ready network.polls network
  (!network.isOpen id && network.inbox id = [], network)

end Network

end CardTable
