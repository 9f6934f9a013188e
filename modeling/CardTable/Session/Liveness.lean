import CardTable.Numbers

/-!
# Liveness

A connection that is silent for long enough falls asleep, and dies after a longer silence. Silence
is measured against three thresholds; the shortest only says how often a ping is due.
-/

namespace CardTable

/-- How long a connection may be silent before something happens. -/
structure Thresholds where
  /-- A ping is due when more than this has passed since the last one. -/
  ping : Nanos := .ofMillis 2000
  /-- A longer silence is sleep. -/
  sleep : Nanos := .ofMillis 5000
  /-- A longer silence is death. -/
  dead : Nanos := .ofMillis 180000
  deriving DecidableEq, Repr

/-- The thresholds are positive and strictly increasing. -/
def Thresholds.Ordered (thresholds : Thresholds) : Prop :=
  0 < thresholds.ping ∧ thresholds.ping < thresholds.sleep ∧ thresholds.sleep < thresholds.dead

instance (thresholds : Thresholds) : Decidable thresholds.Ordered :=
  inferInstanceAs (Decidable (_ ∧ _ ∧ _))

/-- Whether a connection still talks. Death is final. -/
inductive Liveness
  | awake
  | asleep
  | dead
  deriving DecidableEq, Repr

/-- A change of liveness that others have to be told of. -/
inductive LivenessEvent
  | fellAsleep
  | died
  deriving DecidableEq, Repr

/-- What is known of the silence of a connection. -/
structure Presence where
  lastHeard : Nanos
  lastPing : Nanos
  /-- The longest silence seen since then, in whole sleep thresholds. -/
  missed : Nat
  liveness : Liveness
  deriving DecidableEq, Repr

namespace Presence

def fresh (now : Nanos) : Presence where
  lastHeard := now
  lastPing := now
  missed := 0
  liveness := .awake

/-- The largest count of missed periods that is kept. -/
def missedBound : Nat := Nat.pow 2 32 - 1

/-- How often the sleep threshold fits into a silence, both in whole milliseconds. A threshold of
less than one counts as one. -/
def periods (silence sleep : Nanos) : Nat :=
  min (silence.toMillis / max sleep.toMillis 1) missedBound

/-- Something came in: the silence is over, and whoever slept is awake. Also says whether this woke
a sleeper. -/
def touch (presence : Presence) (now : Nanos) : Bool × Presence :=
  let heard := { presence with lastHeard := now, missed := 0 }
  if presence.liveness = .asleep then (true, { heard with liveness := .awake }) else (false, heard)

/-- Says whether a ping is due, and if it is, starts the next interval. -/
def pingDue (presence : Presence) (thresholds : Thresholds) (now : Nanos) : Bool × Presence :=
  if thresholds.ping < now - presence.lastPing then (true, { presence with lastPing := now })
  else (false, presence)

/-- Judges the silence so far. Falling asleep is told on the first crossing of the sleep threshold
since something came in, and death once. -/
def check (presence : Presence) (thresholds : Thresholds) (now : Nanos) :
    Option LivenessEvent × Presence :=
  let silence := now - presence.lastHeard
  if presence.liveness = .dead then (none, presence)
  else if thresholds.dead < silence then (some .died, { presence with liveness := .dead })
  else if thresholds.sleep < silence then
    let counted :=
      { presence with missed := max presence.missed (periods silence thresholds.sleep) }
    if presence.missed = 0 ∧ presence.liveness = .awake then
      (some .fellAsleep, { counted with liveness := .asleep })
    else (none, counted)
  else (none, presence)

end Presence

end CardTable
