/-!
# Numbers that name things

Players, rooms and connections are known by numbers. This file names the three kinds and says how
each is written in a message to a person. Clocks count nanoseconds, and settings milliseconds.
-/

namespace CardTable

/-- The number of a player, given out once and for all when the player takes a name. -/
abbrev PlayerId := Nat

/-- The number of a room, free again when the room is gone. -/
abbrev RoomId := Nat

/-- The number of a connection, in the order in which connections were made. -/
abbrev ConnectionId := Nat

/-- A span of time in milliseconds, as settings give it. -/
abbrev Millis := Nat

/-- A moment or a span of time, in nanoseconds. -/
abbrev Nanos := Nat

def Nanos.ofMillis (span : Millis) : Nanos := 1000000 * span

/-- The whole milliseconds of a span; what is left over counts for nothing. -/
def Nanos.toMillis (span : Nanos) : Millis := span / 1000000

@[simp]
theorem Nanos.toMillis_ofMillis (span : Millis) : (ofMillis span).toMillis = span :=
  Nat.mul_div_cancel_left span (by decide)

@[simp]
theorem Nanos.ofMillis_inj {span other : Millis} : ofMillis span = ofMillis other ↔ span = other :=
  Nat.mul_right_inj (by decide)

@[simp]
theorem Nanos.ofMillis_lt_ofMillis {span other : Millis} :
    ofMillis span < ofMillis other ↔ span < other :=
  Nat.mul_lt_mul_left (by decide)

/-- How a player is called in an error message. -/
def playerLabel (player : PlayerId) : String := s!"P-{player}"

/-- How a room is called in an error message. -/
def roomLabel (room : RoomId) : String := s!"R-{room}"

/-- How a connection is called in an error message. -/
def connectionLabel (connection : ConnectionId) : String := s!"conn-{connection}"

end CardTable
