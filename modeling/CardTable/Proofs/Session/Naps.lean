import CardTable.Proofs.Session.Silence

/-!
# Naps and the death

A session tells when it falls asleep, when it wakes, and when it dies. Whatever its thresholds are
and whatever the clock shows, also one that is set back, each nap and the death are told once.
-/

namespace CardTable

/-- Something that a session tells of itself. -/
inductive Report
  | woke
  | told (event : LivenessEvent)
  deriving DecidableEq, Repr

/-- What is told of `naps` naps that are over, of one that is not if the session is still
`napping` or died in its sleep, and of the death. -/
def Report.story (naps : Nat) (napping dead : Bool) : List Report :=
  (List.replicate naps [.told .fellAsleep, .woke]).flatten ++
    (if napping then [.told .fellAsleep] else []) ++ if dead then [.told .died] else []

namespace Report

theorem story_falls (naps : Nat) :
    story naps false false ++ [.told .fellAsleep] = story naps true false := by
  simp [story]

theorem story_wakes (naps : Nat) :
    story naps true false ++ [.woke] = story (naps + 1) false false := by
  simp [story, List.replicate_succ']

theorem story_dies (naps : Nat) (napping : Bool) :
    story naps napping false ++ [.told .died] = story naps napping true := by
  simp [story]

end Report

/-- What may happen to the clock of a session. -/
inductive Attention
  | touch (now : Nanos)
  | check (now : Nanos)
  | receive (arrivals : List Arrival) (now : Nanos)

/-! ## One attention -/

/-- How a session stands before and after a report. -/
inductive Liveness.Turns : Liveness → Option Report → Liveness → Prop
  | same (liveness : Liveness) : Turns liveness none liveness
  | falls : Turns .awake (some (.told .fellAsleep)) .asleep
  | wakes : Turns .asleep (some .woke) .awake
  | dies {liveness : Liveness} (alive : liveness ≠ .dead) :
    Turns liveness (some (.told .died)) .dead

/-- Each nap was told at its beginning and at its end, and the death was told once, last of all. The
last nap of somebody who lives is not over just when they are asleep. -/
def Report.Recount (reports : List Report) (liveness : Liveness) : Prop :=
  ∃ naps napping, reports = story naps napping (liveness = .dead) ∧
    (liveness ≠ .dead → napping = decide (liveness = .asleep))

theorem Report.Recount.after {reports : List Report} {earlier later : Liveness}
    {report : Option Report} (recount : Recount reports earlier) (turns : earlier.Turns report later) :
    Recount (reports ++ report.toList) later := by
  rcases recount with ⟨naps, napping, rfl, current⟩
  cases turns with
  | same => exact ⟨naps, napping, List.append_nil _, current⟩
  | falls =>
    obtain rfl : napping = false := current (by simp)
    exact ⟨naps, true, story_falls naps, fun _ => rfl⟩
  | wakes =>
    obtain rfl : napping = true := current (by simp)
    exact ⟨naps + 1, false, story_wakes naps, fun _ => rfl⟩
  | dies alive =>
    rw [decide_eq_false alive]
    exact ⟨naps, napping, story_dies naps napping, fun live => (live rfl).elim⟩

namespace Presence

variable {presence : Presence} {now : Nanos}

/-- Whoever is awake has missed nothing. -/
def Wary (presence : Presence) : Prop :=
  presence.missed ≠ 0 → presence.liveness ≠ .awake

theorem wary_fresh (now : Nanos) : (fresh now).Wary :=
  fun missed => (missed rfl).elim

theorem wary_touch (presence : Presence) (now : Nanos) : (presence.touch now).2.Wary := by
  refine fun missed => (missed ?_).elim
  simp only [touch]
  split <;> rfl

theorem turns_touch (presence : Presence) (now : Nanos) :
    Liveness.Turns presence.liveness (if (presence.touch now).1 then some .woke else none)
      (presence.touch now).2.liveness := by
  simp only [touch]
  split
  · next asleep =>
    rw [asleep]
    exact .wakes
  · exact .same _

/-- How many periods are counted as missed does not matter: who is counted for has fallen asleep or
was not awake before. -/
theorem Wary.check (wary : presence.Wary) (thresholds : Thresholds) (now : Nanos) :
    (presence.check thresholds now).2.Wary := by
  simp only [Presence.check]
  split
  · exact wary
  · split
    · exact fun _ => by simp
    · split
      · split
        · exact fun _ => by simp
        · next stays =>
          exact fun _ awake => stays ⟨by_contra fun missed => wary missed awake, awake⟩
      · exact wary

theorem turns_check (presence : Presence) (thresholds : Thresholds) (now : Nanos) :
    Liveness.Turns presence.liveness ((presence.check thresholds now).1.map .told)
      (presence.check thresholds now).2.liveness := by
  simp only [check]
  split
  · exact .same _
  · next alive =>
    split
    · exact .dies alive
    · split
      · split
        · next falls =>
          rw [falls.2]
          exact .falls
        · exact .same _
      · exact .same _

end Presence

namespace Session

variable {session : Session} {config : SessionConfig}

/-- What a session tells when something happens to its clock, and the session then. -/
def attend (config : SessionConfig) (session : Session) : Attention → Option Report × Session
  | .touch now =>
    let touched := session.touch now
    (if touched.1 then some .woke else none, touched.2)
  | .check now =>
    let checked := session.check config now
    (checked.1.map .told, checked.2)
  | .receive arrivals now =>
    match session.receive config arrivals now with
    | (.ok traffic, filled) => (if traffic.woke then some .woke else none, filled)
    | (.error _, filled) => (none, filled)

/-- A read that brings something is a touch. One that brings nothing or fails is as if nothing had
happened. -/
theorem attend_receive (config : SessionConfig) (session : Session) (arrivals : List Arrival)
    (now : Nanos) :
    ((session.receive config arrivals now).2.incoming ≠ session.incoming ∧
      (∃ traffic, (session.receive config arrivals now).1 = .ok traffic) ∧
      (session.attend config (.receive arrivals now)).1 =
        (if (session.presence.touch now).1 then some .woke else none) ∧
      (session.attend config (.receive arrivals now)).2.presence =
        (session.presence.touch now).2) ∨
    (session.attend config (.receive arrivals now)).1 = none ∧
      (session.attend config (.receive arrivals now)).2.presence = session.presence := by
  simp only [attend, receive]
  split
  · exact .inr ⟨rfl, rfl⟩
  · split
    · exact .inr ⟨rfl, rfl⟩
    · next brought => exact .inl ⟨by simpa using brought, ⟨_, rfl⟩, rfl, rfl⟩

theorem turns_attend (config : SessionConfig) (session : Session) (attention : Attention) :
    Liveness.Turns session.presence.liveness (session.attend config attention).1
      (session.attend config attention).2.presence.liveness := by
  cases attention with
  | touch now => exact session.presence.turns_touch now
  | check now => exact session.presence.turns_check config.thresholds now
  | receive arrivals now =>
    rcases attend_receive config session arrivals now with
      ⟨_, _, report, presence⟩ | ⟨report, presence⟩
    · rw [report, presence]
      exact session.presence.turns_touch now
    · rw [report, presence]
      exact .same _

theorem wary_attend (config : SessionConfig) (wary : session.presence.Wary)
    (attention : Attention) : (session.attend config attention).2.presence.Wary := by
  cases attention with
  | touch now => exact session.presence.wary_touch now
  | check now => exact wary.check config.thresholds now
  | receive arrivals now =>
    rcases attend_receive config session arrivals now with
      ⟨_, _, _, presence⟩ | ⟨_, presence⟩
    · rw [presence]
      exact session.presence.wary_touch now
    · rw [presence]
      exact wary

/-- Reads that bring nothing, and reads that fail, are not told of and leave the clock alone. -/
theorem attend_of_quiet (config : SessionConfig) (session : Session) {arrivals : List Arrival}
    {now : Nanos}
    (quiet : (session.receive config arrivals now).2.incoming = session.incoming ∨
      ∃ error, (session.receive config arrivals now).1 = .error error) :
    (session.attend config (.receive arrivals now)).1 = none ∧
      (session.attend config (.receive arrivals now)).2.presence = session.presence := by
  rcases attend_receive config session arrivals now with ⟨brought, ⟨traffic, read⟩, _⟩ | nothing
  · rcases quiet with same | ⟨error, failed⟩
    · exact (brought same).elim
    · cases read.symm.trans failed
  · exact nothing

end Session

/-! ## A whole life -/

/-- A session, and what it has told so far. -/
structure Watch where
  session : Session
  reports : List Report

namespace Watch

variable {watch : Watch} {config : SessionConfig}

def start (id : ConnectionId) (now : Nanos) : Watch where
  session := .fresh id now
  reports := []

def after (config : SessionConfig) (watch : Watch) (attention : Attention) : Watch :=
  let attended := watch.session.attend config attention
  { session := attended.2, reports := watch.reports ++ attended.1.toList }

def run (config : SessionConfig) (watch : Watch) (attentions : List Attention) : Watch :=
  attentions.foldl (after config) watch

/-- What holds of a session at any time of its life. -/
structure Faithful (config : SessionConfig) (watch : Watch) : Prop where
  recount : Report.Recount watch.reports watch.session.presence.liveness
  wary : watch.session.presence.missed ≠ 0 → watch.session.isAwake = false
  /-- A read that brings nothing or fails is told of by nothing and changes no clock. -/
  quiet : ∀ arrivals now,
    (watch.session.receive config arrivals now).2.incoming = watch.session.incoming ∨
      (∃ error, (watch.session.receive config arrivals now).1 = .error error) →
    (watch.after config (.receive arrivals now)).reports = watch.reports ∧
      (watch.after config (.receive arrivals now)).session.presence = watch.session.presence

theorem recount_run (recount : Report.Recount watch.reports watch.session.presence.liveness)
    (attentions : List Attention) :
    Report.Recount (watch.run config attentions).reports
      (watch.run config attentions).session.presence.liveness := by
  induction attentions generalizing watch with
  | nil => exact recount
  | cons attention attentions ih =>
    exact ih (recount.after (watch.session.turns_attend config attention))

theorem wary_run (wary : watch.session.presence.Wary) (attentions : List Attention) :
    (watch.run config attentions).session.presence.Wary := by
  induction attentions generalizing watch with
  | nil => exact wary
  | cons attention attentions ih => exact ih (Session.wary_attend config wary attention)

/-- Under any thresholds and any clock, each nap and the death are told once. -/
theorem naps_told_once (config : SessionConfig) (id : ConnectionId) (now : Nanos)
    (attentions : List Attention) : ((start id now).run config attentions).Faithful config where
  recount := recount_run ⟨0, false, rfl, fun _ => rfl⟩ attentions
  wary missed := by
    have fresh : (start id now).session.presence.Wary := Presence.wary_fresh now
    have asleep := wary_run fresh attentions missed
    simpa [Session.isAwake] using asleep
  quiet arrivals now quiet := by
    rcases Session.attend_of_quiet config _ quiet with ⟨nothing, same⟩
    refine ⟨?_, same⟩
    simp only [after, nothing, Option.toList_none, List.append_nil]

/-- A life within a microsecond, under a clock that goes back. No silence is a whole millisecond, so
the session sleeps though it has missed nothing; it wakes, and dies awake. -/
example :
    let config : SessionConfig := { thresholds := { ping := 0, sleep := 0, dead := 30 } }
    let sleeper := (start 0 50).run config [.check 40, .check 60, .check 65]
    (sleeper.session.presence.liveness, sleeper.session.presence.missed) = (.asleep, 0) ∧
      (sleeper.run config [.touch 10, .touch 20, .check 10, .check 90, .touch 95,
        .check 200]).reports = [.told .fellAsleep, .woke, .told .died] := by decide

end Watch

end CardTable
