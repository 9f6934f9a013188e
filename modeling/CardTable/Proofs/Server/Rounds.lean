import CardTable.Proofs.Server.Closings
import CardTable.Server.Loop

/-!
# The board and the sessions

The loop keeps a board of the open connections beside the server's sessions. While a round lasts the
two drift apart: connections come and are refused, sessions fail or are taken over, and what one
client asks for is said to others. A round is a run of calls, so by its end the books of the server
tell which connections it has given up, and once these are closed both sides agree again.
-/

namespace CardTable

/-! ## The board -/

namespace Board

variable {board : Board} {id : ConnectionId}

/-- Registers several new connections, and says which. -/
def registerAll (board : Board) : Nat → List ConnectionId × Board
  | 0 => ([], board)
  | count + 1 =>
    let first := board.register
    let rest := first.2.registerAll count
    (first.1 :: rest.1, rest.2)

def closeAll (board : Board) (closings : List Closing) : Board :=
  closings.foldl (fun board closing => board.close closing.connection) board

def followAll (board : Board) (interest : List (ConnectionId × Bool)) : Board :=
  interest.foldl (fun board (id, wanted) => board.follow id wanted) board

/-- Every connection on the board has a number that will not be given to a new one. -/
def Numbered (board : Board) : Prop :=
  ∀ ⦃id⦄, board.isOpen id → id < board.nextId

theorem mem_lines_iff : id ∈ board.lines.keys ↔ board.isOpen id :=
  Directory.mem_keys_iff

theorem mem_writers_iff : id ∈ board.writers ↔ board.awaits id :=
  Directory.mem_keys_iff

theorem isOpen_register :
    board.register.2.isOpen id ↔ id = board.nextId ∨ board.isOpen id := by
  simp only [isOpen, Directory.contains, register, Directory.get?_insert]
  by_cases new : id = board.nextId <;> simp [new]

theorem awaits_registerAll (count : Nat) :
    (board.registerAll count).2.awaits id = board.awaits id := by
  induction count generalizing board with
  | zero => rfl
  | succ count ih => exact ih

theorem isOpen_registerAll (count : Nat) :
    (board.registerAll count).2.isOpen id ↔
      id ∈ (board.registerAll count).1 ∨ board.isOpen id := by
  induction count generalizing board with
  | zero => simp [registerAll]
  | succ count ih => simp only [registerAll, List.mem_cons, ih, isOpen_register]; tauto

/-- New connections get the next numbers. -/
theorem registered (count : Nat) :
    (board.registerAll count).1 = List.range' board.nextId count ∧
      (board.registerAll count).2.nextId = board.nextId + count := by
  induction count generalizing board with
  | zero => exact ⟨rfl, rfl⟩
  | succ count ih =>
    rcases @ih board.register.2 with ⟨new, next⟩
    exact ⟨congrArg (board.nextId :: ·) new, next.trans (Nat.add_right_comm _ 1 count)⟩

theorem Numbered.registerAll (numbered : board.Numbered) (count : Nat) :
    (board.registerAll count).2.Numbered := by
  rcases @registered board count with ⟨new, next⟩
  intro id opened
  rw [isOpen_registerAll, new, List.mem_range'_1] at opened
  rw [next]
  rcases opened with within | before
  · exact within.2
  · exact Nat.lt_add_right count (numbered before)

/-- What every closing takes away from just the connection that is closed is left, after several, to
the connections that are not among them. -/
theorem closeAll_iff {holds : Board → Prop}
    (closes : ∀ (board : Board) (closed : ConnectionId),
      holds (board.close closed) ↔ holds board ∧ id ≠ closed) (closings : List Closing) :
    holds (board.closeAll closings) ↔ holds board ∧ id ∉ closings.map Closing.connection := by
  induction closings generalizing board with
  | nil => simp [closeAll]
  | cons closing closings ih =>
    rw [closeAll, List.foldl_cons, ← closeAll, ih, closes, List.map_cons, List.mem_cons, not_or,
      and_assoc]

theorem isOpen_closeAll (closings : List Closing) :
    (board.closeAll closings).isOpen id ↔
      board.isOpen id ∧ id ∉ closings.map Closing.connection :=
  @closeAll_iff board id (·.isOpen id) (fun board closed => board.lines.contains_erase closed id)
    closings

theorem awaits_closeAll (closings : List Closing) :
    (board.closeAll closings).awaits id ↔
      board.awaits id ∧ id ∉ closings.map Closing.connection :=
  @closeAll_iff board id (·.awaits id) (fun board closed => board.waiting.contains_erase closed id)
    closings

theorem isOpen_follow (other : ConnectionId) (wanted : Bool) :
    (board.follow other wanted).isOpen id = board.isOpen id := by
  rw [follow]
  split <;> rfl

/-- A note is about one connection. -/
theorem awaits_follow_of_ne {other : ConnectionId} (apart : id ≠ other) (wanted : Bool) :
    (board.follow other wanted).awaits id = board.awaits id := by
  rw [follow]
  split
  · rfl
  · simp only [awaits, await, Directory.contains]
    split
    · rw [Directory.get?_insert, if_neg apart]
    · rw [Directory.get?_erase, if_neg apart]

theorem awaits_follow_self (opened : board.isOpen id) (wanted : Bool) :
    (board.follow id wanted).awaits id = wanted := by
  rw [follow]
  split
  · next right => exact right
  · simp only [awaits, await, Directory.contains, opened, Bool.and_true]
    cases wanted with
    | true => simp [Directory.get?_insert]
    | false => simp [Directory.get?_erase]

theorem isOpen_followAll (interest : List (ConnectionId × Bool)) :
    (board.followAll interest).isOpen id = board.isOpen id := by
  induction interest generalizing board with
  | nil => rfl
  | cons first interest ih => exact ih.trans (isOpen_follow first.1 first.2)

/-- Nothing is noted of a connection that is not spoken of. -/
theorem awaits_followAll_of_absent {interest : List (ConnectionId × Bool)}
    (absent : id ∉ interest.map Prod.fst) :
    (board.followAll interest).awaits id = board.awaits id := by
  induction interest generalizing board with
  | nil => rfl
  | cons first interest ih =>
    rw [List.map_cons, List.mem_cons, not_or] at absent
    exact (ih absent.2).trans (awaits_follow_of_ne absent.1 first.2)

theorem awaits_followAll {interest : List (ConnectionId × Bool)} {wanted : Bool}
    (distinct : (interest.map Prod.fst).Nodup) (opened : board.isOpen id)
    (spoken : (id, wanted) ∈ interest) : (board.followAll interest).awaits id = wanted := by
  induction interest generalizing board with
  | nil => cases spoken
  | cons first interest ih =>
    rw [List.map_cons, List.nodup_cons] at distinct
    rw [followAll, List.foldl_cons, ← followAll]
    rcases List.mem_cons.1 spoken with rfl | later
    · rw [awaits_followAll_of_absent distinct.1, awaits_follow_self opened]
    · exact ih distinct.2 ((isOpen_follow first.1 first.2).trans opened) later

theorem nextId_closeAll (closings : List Closing) :
    (board.closeAll closings).nextId = board.nextId := by
  induction closings generalizing board with
  | nil => rfl
  | cons closing closings ih => exact ih

theorem nextId_follow (other : ConnectionId) (wanted : Bool) :
    (board.follow other wanted).nextId = board.nextId := by
  rw [follow]
  split <;> rfl

theorem nextId_followAll (interest : List (ConnectionId × Bool)) :
    (board.followAll interest).nextId = board.nextId := by
  induction interest generalizing board with
  | nil => rfl
  | cons first interest ih => exact ih.trans (nextId_follow first.1 first.2)

end Board

/-! ## A round as calls -/

/-- The connection that an event says is new. -/
def Event.accepted? : Event → Option ConnectionId
  | .accepted id => some id
  | .ready _ _ => none

/-- Some new connections are registered, and every one of them is reported once, in any order and
among whatever else is reported of any connection, however often. -/
def Board.Reported (board : Board) (count : Nat) (events : List Event) : Prop :=
  (events.filterMap Event.accepted?).Perm (board.registerAll count).1

instance (board : Board) (count : Nat) (events : List Event) :
    Decidable (board.Reported count events) :=
  inferInstanceAs (Decidable (List.Perm _ _))

/-- The calls that an event comes to. -/
def Event.calls (board : Board) (now : Nanos) : Event → List Server.Call
  | .accepted id => [.accept id now]
  | .ready id readiness =>
    if ¬board.isOpen id then []
    else
      (if readiness.readable || readiness.hangup then [.receive id readiness.arrivals now]
        else []) ++
        if readiness.writable then [.transmit id readiness.uptake] else []

namespace Loop

open Server

variable {board : Board} {server : Server} {now : Nanos} {id : ConnectionId}

/-- The loop once some new connections are registered. -/
def meet (loop : Loop) (count : Nat) : Loop :=
  { loop with board := (loop.board.registerAll count).2 }

theorem handle_eq_run (event : Event) :
    (handle board server now event).2 = server.run (event.calls board now) := by
  cases event with
  | accepted id => rfl
  | ready id readiness =>
    simp only [handle, Event.calls]
    by_cases opened : board.isOpen id
    · cases readiness.readable || readiness.hangup <;> cases readiness.writable <;>
        simp [opened, Server.run, afterCall]
    · simp [opened, Server.run]

theorem handleAll_eq_run (events : List Event) :
    (handleAll board now server events).2 =
      server.run (events.flatMap (Event.calls board now)) := by
  induction events generalizing server with
  | nil => rfl
  | cons event later ih =>
    rw [handleAll, List.flatMap_cons, Server.run, List.foldl_append]
    exact (ih).trans (congrArg (fun server : Server => server.run _) (handle_eq_run event))

/-- A round makes exactly the connections that are reported to it. -/
theorem made_calls (events : List Event) :
    (events.flatMap (Event.calls board now)).filterMap Call.made? =
      events.filterMap Event.accepted? := by
  induction events with
  | nil => rfl
  | cons event later ih =>
    have first : (event.calls board now).filterMap Call.made? = event.accepted?.toList := by
      cases event with
      | accepted id => rfl
      | ready id readiness =>
        simp only [Event.calls]
        split
        · rfl
        · split <;> split <;> rfl
    rw [List.flatMap_cons, List.filterMap_append, first, ih]
    cases event <;> rfl

/-- Closings that are not handed out wait. -/
theorem closed_of_kept {calls : List Call} (kept : Call.takeClosings ∉ calls) :
    server.closed calls = (server.run calls).closings.map Closing.connection := by
  induction calls generalizing server with
  | nil => rfl
  | cons call calls ih =>
    rw [List.mem_cons, not_or] at kept
    have quiet : server.handedOut call = [] := by
      cases call with
      | takeClosings => exact (kept.1 rfl).elim
      | accept | receive | transmit | sweep => rfl
    rw [closed, quiet]
    exact ih kept.2

variable {loop : Loop} {events : List Event} {count : Nat}

/-- All the calls of a round. -/
def roundCalls (board : Board) (events : List Event) (now : Nanos) : List Call :=
  events.flatMap (Event.calls board now) ++ [.sweep now]

theorem made_roundCalls (board : Board) (events : List Event) (now : Nanos) :
    (roundCalls board events now).filterMap Call.made? = events.filterMap Event.accepted? := by
  rw [roundCalls, List.filterMap_append, made_calls]
  exact List.append_nil _

theorem kept_roundCalls (board : Board) (events : List Event) (now : Nanos) :
    Call.takeClosings ∉ roundCalls board events now := by
  intro member
  rcases List.mem_append.1 member with among | last
  · rcases List.mem_flatMap.1 among with ⟨_ | _, _, taken⟩ <;> simp [Event.calls] at taken
  · simp at last

/-- A round is a run of calls, after which the board follows the server. -/
theorem tick_eq (loop : Loop) (events : List Event) (now : Nanos) :
    let served := loop.server.run (roundCalls loop.board events now)
    (loop.tick events now).2 =
      { server := served.takeClosings.2
        board := (loop.board.closeAll served.closings).followAll served.writeInterest } := by
  have same : loop.server.run (roundCalls loop.board events now) =
      (handleAll loop.board now loop.server events).2.sweep now := by
    rw [handleAll_eq_run, roundCalls, Server.run, List.foldl_append]
    rfl
  rw [same]
  rfl

theorem mem_writeInterest_iff {wanted : Bool} : (id, wanted) ∈ server.writeInterest ↔
    ∃ session, server.sessions.get? id = some session ∧ session.wantsWrite = wanted := by
  simp only [writeInterest, List.mem_map, Prod.exists, Prod.mk.injEq, Directory.mem_entries_iff]
  constructor
  · rintro ⟨_, session, found, rfl, wants⟩
    exact ⟨session, found, wants⟩
  · rintro ⟨session, found, wants⟩
    exact ⟨id, session, found, rfl, wants⟩

theorem nodup_writeInterest (server : Server) : (server.writeInterest.map Prod.fst).Nodup := by
  rw [writeInterest, List.map_map]
  exact List.pairwise_map.2 (server.sessions.live.ordered.imp fun below => Nat.ne_of_lt below)

theorem not_mem_writeInterest (missing : server.sessions.get? id = none) :
    id ∉ server.writeInterest.map Prod.fst := by
  intro spoken
  rcases List.mem_map.1 spoken with ⟨⟨_, wanted⟩, member, rfl⟩
  rcases mem_writeInterest_iff.1 member with ⟨session, found, _⟩
  cases missing.symm.trans found

/-! ## Agreement -/

/-- The open connections are exactly those with a session, the loop waits to write to exactly those
whose session has something to send, and no connection is left to be closed. -/
structure Agrees (loop : Loop) : Prop where
  linked : loop.server.Linked
  settled : loop.server.closings = []
  numbered : loop.board.Numbered
  isOpen_iff : ∀ {id}, loop.board.isOpen id ↔ (loop.server.sessions.get? id).isSome
  awaits_iff : ∀ {id}, loop.board.awaits id ↔
    ∃ session, loop.server.sessions.get? id = some session ∧ session.wantsWrite

theorem agrees_start (config : ServerConfig) (deals : List Deal) : (start config deals).Agrees where
  linked := linked_start config deals
  settled := rfl
  numbered _ opened := by cases opened
  isOpen_iff := Iff.rfl
  awaits_iff := by
    intro id
    refine iff_of_false (by simp [start, Board.vacant, Board.awaits, Directory.contains]) ?_
    rintro ⟨session, found, _⟩
    cases found

namespace Agrees

theorem tally_le (agrees : loop.Agrees) (id : ConnectionId) :
    loop.server.tally id ≤ loop.board.lines.keys.count id := by
  rw [tally, agrees.settled, List.map_nil, List.count_nil, Nat.add_zero]
  split
  · next live => exact List.count_pos_iff.2 (Board.mem_lines_iff.2 (agrees.isOpen_iff.2 live))
  · exact Nat.zero_le _

/-- Nobody comes in a round who is on the board already, and nobody comes twice. -/
theorem nodup_made (agrees : loop.Agrees) (reported : loop.board.Reported count events) :
    (loop.board.lines.keys ++ events.filterMap Event.accepted?).Nodup := by
  rw [Board.Reported, (Board.registered count).1] at reported
  have distinct : loop.board.lines.keys.Nodup :=
    List.pairwise_map.2 (loop.board.lines.ordered.imp fun below => Nat.ne_of_lt below)
  refine List.nodup_append'.2 ⟨distinct, reported.nodup_iff.2 (List.nodup_range' _), ?_⟩
  intro id known new
  have before := agrees.numbered (Board.mem_lines_iff.1 known)
  have behind := (List.mem_range'_1.1 (reported.mem_iff.1 new)).1
  exact Nat.not_lt.2 behind before

/-- After the calls of a round every connection is live or to be closed. -/
theorem live_iff (agrees : loop.Agrees) (reported : loop.board.Reported count events)
    (board : Board) (now : Nanos) (id : ConnectionId) :
    let served := loop.server.run (roundCalls board events now)
    (served.sessions.get? id).isSome ↔
      (loop.board.registerAll count).2.isOpen id ∧
        id ∉ served.closings.map Closing.connection := by
  intro served
  have filed : loop.server.Filed := fun _ _ found => agrees.linked.indexed.filed found
  have once := agrees.nodup_made reported
  have made := made_roundCalls board events now
  -- The books have every connection once, and whoever is not live any more is to be closed.
  have books := tally_run filed (made.symm ▸ once) agrees.tally_le id
  rw [closed_of_kept (kept_roundCalls board events now), made, reported.count_eq] at books
  have single := List.nodup_iff_count_le_one.1 once id
  rw [List.count_append, reported.count_eq] at single
  have before := agrees.tally_le id
  have opened : (loop.board.registerAll count).2.isOpen id ↔
      0 < loop.server.tally id + (loop.board.registerAll count).1.count id := by
    rw [Board.isOpen_registerAll, ← List.count_pos_iff, agrees.isOpen_iff, tally, agrees.settled]
    split
    · next before => simp [before, Nat.add_comm 1]
    · next before => simp [before]
  rw [opened, ← List.count_pos_iff]
  change (if (served.sessions.get? id).isSome then 1 else 0) +
    (served.closings.map Closing.connection).count id = _ at books
  split at books
  · next live => exact iff_of_true live ⟨by omega, by omega⟩
  · next gone => exact iff_of_false gone (by omega)

/-- Whatever has happened in a round, at its end the board agrees with the sessions again. -/
theorem tick (agrees : loop.Agrees)
    (reported : loop.board.Reported count events) (now : Nanos) :
    ((loop.meet count).tick events now).2.Agrees := by
  let board := (loop.board.registerAll count).2
  let served := loop.server.run (roundCalls board events now)
  let closed := board.closeAll served.closings
  have linked : served.Linked := invariant_linked.run agrees.linked _
  have live := agrees.live_iff reported board now
  have alike (id : ConnectionId) : closed.isOpen id ↔ (served.sessions.get? id).isSome :=
    (Board.isOpen_closeAll _).trans (live id).symm
  rw [tick_eq]
  refine ⟨(Step.collect).linked linked, rfl, ?_, ?_, ?_⟩
  · intro id opened
    have live' : closed.isOpen id := (Board.isOpen_followAll _).symm.trans opened
    -- Nobody is on the board who was not registered, so the next numbers are still free.
    rw [Board.nextId_followAll, Board.nextId_closeAll]
    exact agrees.numbered.registerAll count ((live id).1 ((alike id).1 live')).1
  · intro id
    exact (Iff.of_eq (congrArg (· = true) (Board.isOpen_followAll _))).trans (alike id)
  · intro id
    change (closed.followAll served.writeInterest).awaits id ↔
      ∃ session, served.sessions.get? id = some session ∧ session.wantsWrite
    cases found : served.sessions.get? id with
    | some session =>
      have opened : closed.isOpen id := (alike id).2 (by simp [found])
      rw [Board.awaits_followAll (nodup_writeInterest served) opened
        (mem_writeInterest_iff.2 ⟨session, found, rfl⟩)]
      simp
    | none =>
      -- Nobody waits to write to a connection that has been closed or was never open.
      have gone : ¬closed.isOpen id := by simp [alike id, found]
      rw [Board.awaits_followAll_of_absent (not_mem_writeInterest found), Board.awaits_closeAll,
        Board.awaits_registerAll]
      refine iff_of_false ?_ (by simp)
      rintro ⟨awaited, kept⟩
      rcases agrees.awaits_iff.1 awaited with ⟨session, found', _⟩
      have opened : loop.board.isOpen id := agrees.isOpen_iff.2 (by simp [found'])
      exact gone ((Board.isOpen_closeAll _).2 ⟨(Board.isOpen_registerAll count).2 (.inr opened), kept⟩)

end Agrees

/-! ## Rounds -/

/-- A loop after some rounds. In each, any number of new connections is registered and every one of
them is reported once, in any order and among whatever else is reported of any connection, however
often. -/
inductive Rounds (config : ServerConfig) (deals : List Deal) : Loop → Prop
  | start : Rounds config deals (start config deals)
  | round {loop : Loop} {events : List Event} {count : Nat} (rounds : Rounds config deals loop)
      (reported : loop.board.Reported count events) (now : Nanos) :
      Rounds config deals ((loop.meet count).tick events now).2

theorem Rounds.agrees {config : ServerConfig} {deals : List Deal}
    (rounds : Rounds config deals loop) : loop.Agrees := by
  induction rounds with
  | start => exact agrees_start config deals
  | round _ reported now agrees => exact agrees.tick reported now

/-- After every round the open connections are exactly those with a session, and the loop waits to
write to exactly those whose session has something to send. -/
theorem board_follows_sessions {config : ServerConfig} {deals : List Deal}
    (rounds : Rounds config deals loop) (id : ConnectionId) :
    (loop.board.isOpen id ↔ (loop.server.sessions.get? id).isSome) ∧
      (id ∈ loop.board.writers ↔
        ∃ session, loop.server.sessions.get? id = some session ∧ session.outgoing ≠ []) := by
  have agrees := rounds.agrees
  refine ⟨agrees.isOpen_iff, ?_⟩
  rw [Board.mem_writers_iff, agrees.awaits_iff]
  simp [Session.wantsWrite]

/-- Two connections come. The first takes a name; the second hangs up, which is reported twice. -/
theorem board_follows_sessions_of_hangup :
    let greeting : Readiness :=
      { readable := true, arrivals := [.bytes 0x50 (Wire.bytesOf "RSI NAME Ann |")] }
    let hangup : Readiness := { hangup := true, arrivals := [.closed] }
    let met : Loop :=
      (((start .standard []).meet 2).tick [.accepted 2, .accepted 1] 0).2
    let loop : Loop :=
      ((met.meet 0).tick [.ready 2 hangup, .ready 1 greeting, .ready 2 hangup] 1).2
    Rounds .standard [] loop ∧ 1 ∈ loop.board.writers ∧ ¬loop.board.isOpen 2 := by
  intro greeting hangup met loop
  have rounds : Rounds .standard [] loop := (Rounds.start.round (by decide) 0).round (by decide) 1
  have pending : (loop.server.sessions.get? 1).map Session.wantsWrite = some true := by
    decide +kernel
  have gone : loop.server.sessions.get? 2 = none := by decide +kernel
  rcases Option.map_eq_some_iff.1 pending with ⟨session, found, wants⟩
  refine ⟨rounds, (board_follows_sessions rounds 1).2.2 ⟨session, found, ?_⟩, ?_⟩
  · simpa [Session.wantsWrite] using wants
  · rw [(board_follows_sessions rounds 2).1, gone]
    exact Bool.false_ne_true

end Loop

end CardTable
