import CardTable.Card.Chance
import CardTable.Server.Network

/-!
# The console

A network whose clients are played from one keyboard. What is typed is a line for one of the
clients, and what all of them then receive is reported.
-/

namespace CardTable

/-- A network, and the source of its chance. -/
structure Console where
  network : Network
  generator : StdGen

namespace Console

inductive Entry
  | connect
  | request (id : ConnectionId) (body : String)
  | drop (id : ConnectionId)
  /-- Only time passes. -/
  | wait
  deriving DecidableEq, Repr

inductive Report
  | connected (id : ConnectionId)
  | received (id : ConnectionId) (line : String)
  | closed (id : ConnectionId)
  deriving DecidableEq, Repr

/-- Reads what is typed: `connect`, `drop` with a client, a client with a request, or nothing. -/
def Entry.ofLine? (line : String) : Option Entry :=
  let (first, rest) := line.toList.span (· ≠ ' ')
  let argument := rest.drop 1
  match String.ofList first with
  | "" => if argument = [] then some .wait else none
  | "connect" => if argument = [] then some .connect else none
  | "drop" => (Text.numeral? Text.wordBound argument).map drop
  | _ => (Text.numeral? Text.wordBound first).map fun id => request id (String.ofList argument)

def Report.text : Report → String
  | connected id => s!"{connectionLabel id} connected"
  | received id line => s!"{connectionLabel id}: {line}"
  | closed id => s!"{connectionLabel id} closed"

/-- A console without clients, if its server can listen on its address. -/
def start? (config : ServerConfig) (seed : Nat) : Option Console := do
  return { network := ← Network.start? config [], generator := mkStdGen seed }

/-- How many deals are drawn ahead of each entry: no request starts more than one game, and a line
does not hold more requests than this. -/
def dealsAhead : Entry → Nat
  | .request _ body => body.length + 1
  | _ => 1

/-- The network with fresh chance for an entry. -/
def prepare (console : Console) (entry : Entry) : Console :=
  let (first, generator) := stdSplit console.generator
  let deals := (splitGenerators (dealsAhead entry) first).map Deal.random
  { network := { console.network with loop.server.lobby.deals := deals }, generator }

/-- What an entry does to the network. -/
def act (network : Network) : Entry → Network
  | .connect => network.connect
  | .request id body => network.send id (Wire.bytesOf s!"{Wire.magic} {body} |\n")
  | .drop id => network.drop id
  | .wait => network.after []

/-- The whole lines that the clients have received. -/
def receivedLines (network : Network) : List Report :=
  network.inboxes.entries.flatMap fun (id, bytes) =>
    (Network.cutLines bytes.length bytes).1.map fun line =>
      .received id ((Wire.textOf? line).getD "")

/-- The reports of what changed between two states of the network. -/
def reports (before after : Network) : List Report :=
  let opened := after.inboxes.keys.filter (!before.inboxes.contains ·)
  let closed := (before.loop.board.lines.keys ++ opened).filter (!after.isOpen ·)
  opened.map .connected ++ receivedLines after ++ closed.map .closed

/-- Takes in an entry at a time, and reports what comes of it. -/
def enter (console : Console) (entry : Entry) (now : Nanos) : List Report × Console :=
  let ready := console.prepare entry
  let next := act { ready.network with now } entry
  (reports ready.network next,
    { ready with network := { next with inboxes := next.inboxes.mapEntries fun _ _ => [] } })

end Console

end CardTable
