import CardTable.Proofs.Session.Clocks
import Mathlib.Algebra.GroupWithZero.Nat
import Mathlib.Order.MinMax

/-!
# What a silence means

Clocks are looked at again and again, and each look counts on from what the looks before it have
left. Still, all that a clock says after a look is what the silence says by itself.
-/

namespace CardTable

/-- How a connection stands after a silence, and how many sleep thresholds it has missed; after too
long a silence it is dead. -/
def Thresholds.judge (thresholds : Thresholds) (silence : Nanos) : Option (Liveness × Nat) :=
  if thresholds.dead < silence then none
  else if thresholds.sleep < silence then
    some (.asleep, min (silence / thresholds.sleep) (2 ^ 32 - 1))
  else some (.awake, 0)

variable {thresholds : Thresholds} {early now later : Nanos}

theorem Thresholds.judge_eq_none_iff {silence : Nanos} :
    thresholds.judge silence = none ↔ thresholds.dead < silence := by
  unfold judge
  split
  · next dead => exact iff_of_true rfl dead
  · next alive => split <;> exact iff_of_false (by simp) alive

/-- Thresholds of a valid configuration: they are in order, and sleep comes after whole
milliseconds. -/
structure Thresholds.Configured (thresholds : Thresholds) : Prop where
  ordered : thresholds.Ordered
  whole : ∃ span, thresholds.sleep = .ofMillis span

namespace Presence

/-- What a presence says of itself. -/
def vitals (presence : Presence) : Liveness × Nat :=
  (presence.liveness, presence.missed)

/-- A presence that is awake and has missed nothing, or is asleep and has seen no more than the
silence up to now. -/
structure Follows (presence : Presence) (thresholds : Thresholds) (now : Nanos) : Prop where
  heard : presence.lastHeard ≤ now
  vitals : presence.liveness = .awake ∧ presence.missed = 0 ∨
    presence.liveness = .asleep ∧ thresholds.sleep < now - presence.lastHeard ∧
      presence.missed ≤ periods (now - presence.lastHeard) thresholds.sleep

theorem periods_mono {silence longer sleep : Nanos} (grows : silence ≤ longer) :
    periods silence sleep ≤ periods longer sleep :=
  min_le_min_right _ (Nat.div_le_div_right (Nat.div_le_div_right grows))

/-- Against a threshold of whole milliseconds, what a silence has beyond its own whole milliseconds
makes no difference. -/
theorem periods_eq (configured : thresholds.Configured) (silence : Nanos) :
    periods silence thresholds.sleep = min (silence / thresholds.sleep) (2 ^ 32 - 1) := by
  rcases configured with ⟨⟨ping, sleep, -⟩, span, whole⟩
  have positive : 1 ≤ span := by
    refine Nat.pos_of_ne_zero ?_
    rintro rfl
    exact Nat.not_lt_zero _ (sleep.trans_eq whole)
  rw [whole, periods, Nanos.toMillis_ofMillis, max_eq_left positive, Nanos.toMillis,
    Nat.div_div_eq_div_mul]
  rfl

theorem follows_fresh (thresholds : Thresholds) (now : Nanos) :
    (fresh now).Follows thresholds now :=
  ⟨Nat.le_refl now, .inl ⟨rfl, rfl⟩⟩

variable {presence : Presence}

@[simp]
theorem lastHeard_touch (presence : Presence) (now : Nanos) :
    (presence.touch now).2.lastHeard = now := by
  unfold touch
  dsimp only
  split <;> rfl

/-- A look at the clock whether a ping is due, and then at the silence. -/
def look (presence : Presence) (thresholds : Thresholds) (now : Nanos) :
    Option LivenessEvent × Presence :=
  (presence.pingDue thresholds now).2.check thresholds now

@[simp]
theorem lastHeard_pingDue (presence : Presence) (thresholds : Thresholds) (now : Nanos) :
    (presence.pingDue thresholds now).2.lastHeard = presence.lastHeard := by
  unfold pingDue
  split <;> rfl

@[simp]
theorem lastHeard_look (presence : Presence) (thresholds : Thresholds) (now : Nanos) :
    (presence.look thresholds now).2.lastHeard = presence.lastHeard := by
  rw [look, ← lastHeard_pingDue presence thresholds now]
  unfold check
  dsimp only
  repeat' split
  all_goals rfl

/-- A look at the clock tells of everybody who falls asleep, and leaves all others as they are who
do not die. -/
theorem liveness_look (presence : Presence) (thresholds : Thresholds) (now : Nanos) :
    ((presence.look thresholds now).1 = some .fellAsleep →
      presence.liveness = .awake ∧ (presence.look thresholds now).2.liveness = .asleep) ∧
    ((presence.look thresholds now).1 = none →
      (presence.look thresholds now).2.liveness = presence.liveness) := by
  rw [look, ← liveness_pingDue presence thresholds now]
  generalize (presence.pingDue thresholds now).2 = pinged
  simp only [check]
  split
  · simp
  · split
    · simp
    · split
      · split
        · next falls => exact ⟨fun _ => ⟨falls.2, rfl⟩, by simp⟩
        · simp
      · simp

namespace Follows

variable (follows : presence.Follows thresholds early)

include follows

/-- Whatever follows a silence follows a longer one. -/
theorem mono (passes : early ≤ now) : presence.Follows thresholds now := by
  have grows : early - presence.lastHeard ≤ now - presence.lastHeard :=
    Nat.sub_le_sub_right passes _
  refine ⟨follows.heard.trans passes, follows.vitals.imp_right ?_⟩
  rintro ⟨asleep, sleeps, seen⟩
  exact ⟨asleep, sleeps.trans_le grows, seen.trans (periods_mono grows)⟩

theorem touch (now : Nanos) : (presence.touch now).2.Follows thresholds now := by
  refine ⟨(lastHeard_touch presence now).le, .inl ?_⟩
  rcases follows.vitals with ⟨awake, _⟩ | ⟨asleep, _⟩
  · simp [Presence.touch, awake]
  · simp [Presence.touch, asleep]

theorem pingDue (now : Nanos) : (presence.pingDue thresholds now).2.Follows thresholds early := by
  unfold Presence.pingDue
  split
  · exact ⟨follows.heard, follows.vitals⟩
  · exact follows

/-- A look at the clock judges the silence alone. -/
theorem check (configured : thresholds.Configured) (passes : early ≤ now) :
    ((presence.check thresholds now).1 = some .died ↔
      thresholds.dead < now - presence.lastHeard) ∧
    (¬thresholds.dead < now - presence.lastHeard →
      (presence.check thresholds now).2.Follows thresholds now ∧
        some (presence.check thresholds now).2.vitals =
          thresholds.judge (now - presence.lastHeard)) := by
  rcases follows.mono passes with ⟨heard, vitals⟩
  have alive : presence.liveness ≠ .dead := by
    rcases vitals with ⟨awake, _⟩ | ⟨asleep, _⟩ <;> simp [*]
  simp only [Presence.check, if_neg alive, Thresholds.judge]
  by_cases dead : thresholds.dead < now - presence.lastHeard
  · simp [dead]
  simp only [dead, not_false_iff, iff_false, true_imp_iff]
  by_cases sleep : thresholds.sleep < now - presence.lastHeard
  · simp only [if_pos sleep, ← periods_eq configured]
    rcases vitals with ⟨awake, missed⟩ | ⟨asleep, _, seen⟩
    · simp only [awake, missed, and_self, if_true, Nat.zero_max]
      exact ⟨by simp, ⟨heard, .inr ⟨rfl, sleep, le_rfl⟩⟩, rfl⟩
    · simp only [asleep, reduceCtorEq, and_false, if_false, max_eq_right seen]
      exact ⟨by simp, ⟨heard, .inr ⟨rfl, sleep, le_rfl⟩⟩, rfl⟩
  -- After so short a silence nobody can have fallen asleep.
  · simp only [if_neg sleep]
    rcases vitals with ⟨awake, missed⟩ | ⟨_, sleeps, _⟩
    · exact ⟨by simp, ⟨heard, .inl ⟨awake, missed⟩⟩, congrArg some (Prod.ext awake missed)⟩
    · exact (sleep sleeps).elim

theorem look (configured : thresholds.Configured) (passes : early ≤ now) :
    ((presence.look thresholds now).1 = some .died ↔
      thresholds.dead < now - presence.lastHeard) ∧
    (¬thresholds.dead < now - presence.lastHeard →
      (presence.look thresholds now).2.Follows thresholds now ∧
        some (presence.look thresholds now).2.vitals =
          thresholds.judge (now - presence.lastHeard)) := by
  have checked := (follows.pingDue now).check configured passes
  rwa [lastHeard_pingDue] at checked

end Follows

end Presence

namespace Session

variable {session filled : Session} {config : SessionConfig} {arrivals : List Arrival}
  {traffic : Traffic}

/-- What a session's clock says of it. -/
def vitals (session : Session) : Liveness × Nat :=
  session.presence.vitals

/-- What a session knows of its connection: how long it has been silent, and what has come in. -/
def senses (session : Session) : Presence × Bytes :=
  (session.presence, session.incoming)

theorem presence_receive (received : session.receive config arrivals now = (.ok traffic, filled)) :
    filled.presence =
      if traffic.bytes = 0 then session.presence else (session.presence.touch now).2 := by
  simp only [receive] at received
  split at received
  · cases received
  · split at received
    · cases received
      rfl
    · next some_bytes =>
      cases received
      rw [if_neg (by simpa using some_bytes)]

/-- A session whose connection fails while it takes something in does not notice that anything has
come in. -/
theorem presence_of_error {error : SessionError}
    (received : session.receive config arrivals now = (.error error, filled)) :
    filled.presence = session.presence := by
  simp only [receive] at received
  split at received
  · cases received
    rfl
  · split at received <;> cases received

/-- What comes in without a failure wakes whoever sleeps, and says so. -/
theorem isAwake_receive (received : session.receive config arrivals now = (.ok traffic, filled)) :
    filled.isAwake = (traffic.woke || session.isAwake) ∧
      (traffic.woke = true → session.isAwake = false) := by
  simp only [receive] at received
  split at received
  · cases received
  · split at received
    · cases received
      simp [isAwake]
    · cases received
      cases liveness : session.presence.liveness <;> simp [isAwake, Presence.touch, liveness]

end Session

end CardTable
