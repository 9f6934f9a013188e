import CardTable.Wire.Basic
import CardTable.Numbers

/-!
# Transfer

What a connection does when it is read from or written to, and why a session fails. A read takes
whatever has come, in pieces no longer than the reader asks for, until nothing more is there.
-/

namespace CardTable

/-- Why a read or a write did nothing. -/
inductive Fault
  | wouldBlock
  /-- The attempt may be repeated at once. -/
  | interrupted
  | broken (message : String)
  deriving DecidableEq, Repr

/-- What a connection has for a reader. -/
inductive Arrival
  | bytes (first : UInt8) (rest : Bytes)
  /-- The peer sends nothing more. -/
  | closed
  | fault (fault : Fault)
  deriving DecidableEq, Repr

/-- What a connection does with bytes that are offered to it. -/
inductive Uptake
  | everything
  | atMost (count : Nat)
  | fault (fault : Fault)
  deriving DecidableEq, Repr

namespace Uptake

/-- What a connection answers to bytes that are offered to it: how many of them it takes. -/
def answer (offered : Bytes) : Uptake → Except Fault Nat
  | everything => .ok offered.length
  | atMost count => .ok (min count offered.length)
  | fault cause => .error cause

/-- The bytes that a connection takes of those that are offered to it: as many off their front as it
answers. -/
def taken (uptake : Uptake) (offered : Bytes) : Bytes :=
  match uptake.answer offered with
  | .ok count => offered.take count
  | .error _ => []

end Uptake

/-- Why a session fails, or an operation on it is refused. -/
inductive SessionError
  | peerClosed
  | io (message : String)
  | bufferOverflow (limit : Nat)
  | protocol (error : ProtocolError)
  | notFound (connection : ConnectionId)
  | alreadyNamed (connection : ConnectionId)
  | nicknameTaken (nickname : String)
  deriving DecidableEq, Repr

def SessionError.message : SessionError → String
  | peerClosed => "peer closed the connection"
  | io message => s!"socket I/O failed: {message}"
  | bufferOverflow limit => s!"read buffer exceeded {limit} bytes"
  | protocol error => error.message
  | notFound connection => s!"no session for {connectionLabel connection}"
  | alreadyNamed connection => s!"{connectionLabel connection} is already named"
  | nicknameTaken nickname => s!"nickname {nickname} is taken"

namespace Arrival

def ofBytes? : Bytes → Option Arrival
  | [] => none
  | first :: rest => some (.bytes first rest)

/-- How many reads an arrival can take at most. -/
def weight : Arrival → Nat
  | bytes _ rest => rest.length + 2
  | _ => 1

/-- How many reads several arrivals can take at most. -/
def totalWeight : List Arrival → Nat
  | [] => 0
  | arrival :: later => arrival.weight + totalWeight later

end Arrival

/-- What reading until nothing more is there has brought, and why it ended early if it did. -/
structure Intake where
  received : Bytes
  failure : Option SessionError
  deriving DecidableEq, Repr

namespace Intake

/-- Reading ends, and `failure` says whether for a bad reason. -/
def stop (failure : Option SessionError) : Intake where
  received := []
  failure := failure

/-- A piece that was read before the rest. -/
def after (piece : Bytes) (later : Intake) : Intake where
  received := piece ++ later.received
  failure := later.failure

/--
Reads, with a buffer of `piece + 1` bytes, all that has come. `room` is how many bytes the session
may still take in before its backlog is over the limit; a piece that goes beyond it ends the
reading.
-/
def read (piece limit room : Nat) : List Arrival → Intake
  | [] => stop none
  | .closed :: _ => stop (some .peerClosed)
  | .fault .wouldBlock :: _ => stop none
  | .fault .interrupted :: later => read piece limit room later
  | .fault (.broken message) :: _ => stop (some (.io message))
  | .bytes first rest :: later =>
    let taken := first :: rest.take piece
    if room < taken.length then after taken (stop (some (.bufferOverflow limit)))
    else
      match _left : rest.drop piece with
      | [] => after taken (read piece limit (room - taken.length) later)
      | next :: more =>
        after taken (read piece limit (room - taken.length) (.bytes next more :: later))
termination_by arrivals => Arrival.totalWeight arrivals
decreasing_by
  all_goals simp only [Arrival.totalWeight, Arrival.weight]
  · omega
  · omega
  · have shorter := congrArg List.length _left
    simp only [List.length_drop, List.length_cons] at shorter
    omega

end Intake

end CardTable
