import CardTable.Proofs.Server.Wording
import Mathlib.Logic.Function.Basic

/-!
# What each connection receives

A ledger keeps, beside the server, the bytes that each live connection has taken and the lines that
have been queued for it. In every run, whatever happens in it and however little each attempt to
write brings over, the bytes that were taken and the bytes that are still to be sent are together
just these lines, one behind the other. No line has an improper nickname in it, so each of them is
one frame with the words of its notice.
-/

namespace CardTable

namespace Uptake

/-- An attempt to write that brings no byte over: the connection takes none, or cannot take any. -/
def TakesNothing : Uptake → Prop
  | everything => False
  | atMost count => count = 0
  | fault _ => True

@[simp]
theorem taken_nil (uptake : Uptake) : uptake.taken [] = [] := by
  cases uptake <;> simp [taken, answer]

theorem taken_prefix (uptake : Uptake) (offered : Bytes) : uptake.taken offered <+: offered := by
  rw [taken]
  cases uptake.answer offered with
  | ok count => exact List.take_prefix count offered
  | error cause => exact List.nil_prefix

theorem taken_of_takesNothing {uptake : Uptake} (nothing : uptake.TakesNothing) (offered : Bytes) :
    uptake.taken offered = [] := by
  cases uptake with
  | everything => cases nothing
  | atMost count =>
    cases nothing
    rw [taken, answer, Nat.zero_min]
    rfl
  | fault _ => rfl

end Uptake

namespace Session

theorem outgoing_receive (session : Session) (config : SessionConfig) (arrivals : List Arrival)
    (now : Nanos) : (session.receive config arrivals now).2.outgoing = session.outgoing := by
  simp only [receive]
  split
  · rfl
  · split <;> rfl

/-- What the connection has taken and what is still to be sent is what was offered to it. -/
theorem taken_append_outgoing (session : Session) (uptake : Uptake) :
    uptake.taken session.outgoing ++ (session.transmit uptake).session.outgoing =
      session.outgoing := by
  simp only [transmit, Uptake.taken]
  by_cases nothing : session.outgoing = []
  · cases uptake <;> simp [nothing, unsent, Uptake.answer]
  · rw [if_neg nothing]
    cases uptake.answer session.outgoing with
    | error cause => cases cause <;> rfl
    | ok count =>
      cases count with
      | zero => rfl
      | succ count => exact List.take_append_drop _ _

theorem transmit_of_takesNothing {uptake : Uptake} (nothing : uptake.TakesNothing)
    (session : Session) : ∃ drained, session.transmit uptake = session.unsent drained := by
  simp only [transmit]
  split
  · exact ⟨_, rfl⟩
  · cases uptake with
    | everything => cases nothing
    | atMost count =>
      cases nothing
      simp only [Uptake.answer, Nat.zero_min]
      exact ⟨_, rfl⟩
    | fault cause => cases cause <;> exact ⟨_, rfl⟩

/-- Nothing comes of an attempt to write that has to wait. -/
theorem transmit_of_blocked {fault : Fault} (blocked : fault = .wouldBlock ∨ fault = .interrupted)
    (session : Session) :
    ∃ drained, session.transmit (.fault fault) = session.unsent (.ok drained) := by
  simp only [transmit]
  split
  · exact ⟨_, rfl⟩
  · rcases blocked with rfl | rfl <;> exact ⟨_, rfl⟩

end Session

namespace Server

variable {bytes : ConnectionId → Bytes} {server : Server} {id : ConnectionId}

/-- What a session still has to send; nothing if there is none. -/
def output (server : Server) (id : ConnectionId) : Bytes :=
  ((server.sessions.get? id).map Session.outgoing).getD []

theorem output_of_get? {session : Session} (found : server.sessions.get? id = some session) :
    server.output id = session.outgoing := by
  simp [output, found]

theorem output_of_missing (missing : server.sessions.get? id = none) : server.output id = [] := by
  simp [output, missing]

/-! ## Calls -/

namespace Underway

variable (underway : Underway bytes server)

include underway

theorem serveFrames (id : ConnectionId) (frames : List Wire.Frame) :
    Underway bytes (server.serveFrames id frames) := by
  induction frames generalizing server with
  | nil => exact underway
  | cons frame later ih =>
    have served := underway.dispatch id frame
    rw [Server.serveFrames]
    split
    · next next done =>
      rw [done] at served
      exact ih served
    · next failure failed =>
      rw [failed] at served
      exact served.terminate id _

theorem begin : Underway bytes { server with said := [] } :=
  ⟨underway.holds, by simp⟩

theorem acceptCore (unheard : server.sessions.get? id = none → bytes id = []) (now : Nanos) :
    Underway bytes (server.acceptCore id now) := by
  rw [Server.acceptCore]
  split
  · cases found : server.sessions.get? id with
    | some session =>
      rw [Sessions.connect_of_get? found]
      exact underway
    | none =>
      -- A fresh session has nothing to send, and there was nothing for its connection.
      refine ⟨?_, underway.said⟩
      intro asked later found'
      rw [Sessions.get?_connect found] at found'
      split at found'
      · next same =>
        subst same
        cases found'
        rw [unheard found]
        exact Session.holds_fresh asked now
      · exact underway.holds found'
  · exact underway.of_eq rfl rfl

theorem receiveCore (id : ConnectionId) (arrivals : List Arrival) (now : Nanos) :
    Underway bytes (server.receiveCore id arrivals now) := by
  rw [Server.receiveCore]
  split
  · exact underway
  · next session found =>
    have holds := (underway.holds found).of_standing
      (Session.standing_receive session server.sessions.config arrivals now)
      (Session.outgoing_receive session server.sessions.config arrivals now)
    split
    · next error filled received =>
      rw [received] at holds
      exact (underway.put found holds fun _ _ => rfl).terminate id _
    · next traffic filled received =>
      rw [received] at holds
      have taken : filled.takeFrames.2.Holds id (bytes id) := holds.of_standing rfl rfl
      have read := underway.put found taken fun _ _ => rfl
      have woken : Underway bytes (if traffic.woke = true then
          Server.tellWake { server with sessions := server.sessions.put filled.takeFrames.2 } id
          else { server with sessions := server.sessions.put filled.takeFrames.2 }) := by
        split
        · exact read.tellWake id
        · exact read
      dsimp only
      split
      · exact woken.terminate id _
      · exact woken.serveFrames id _

/-- What a connection takes comes off the front of what it had to be sent. -/
theorem transmitCore (id : ConnectionId) (uptake : Uptake) :
    ∃ left : ConnectionId → Bytes, Underway left (server.transmitCore id uptake).2 ∧
      ∀ asked, bytes asked =
        (if asked = id then uptake.taken (server.output id) else []) ++ left asked := by
  rw [Server.transmitCore]
  split
  · next missing => exact ⟨bytes, underway, by simp [output_of_missing missing]⟩
  · next session found =>
    rw [output_of_get? found]
    have holds := underway.holds found
    -- Only the connection itself has less to be sent, and that if its session ends as well.
    let attempt := session.transmit uptake
    let left : ConnectionId → Bytes := Function.update bytes id attempt.session.outgoing
    have rest : attempt.session.Holds id (left id) := by
      have standing := session.standing_transmit uptake
      rcases Session.standing_eq_iff.1 standing with ⟨same, carries, _⟩
      refine ⟨same.trans holds.filed, (Function.update_self id _ bytes).symm, ?_⟩
      rw [carries]
      exact holds.valid
    have drained := underway.put found rest fun asked other => Function.update_of_ne other _ _
    refine ⟨left, ?_, ?_⟩
    · dsimp only
      split
      · exact drained
      · exact drained.terminate id _
    · intro asked
      by_cases same : asked = id
      · subst same
        rw [if_pos rfl, ← holds.outgoing]
        refine (session.taken_append_outgoing uptake).symm.trans ?_
        exact congrArg _ (Function.update_self asked _ bytes).symm
      · rw [if_neg same, List.nil_append]
        exact (Function.update_of_ne same _ _).symm

theorem react (event : ConnectionId × LivenessEvent) : Underway bytes (server.react event) := by
  rcases event with ⟨id, event⟩
  cases event with
  | died => exact underway.terminate id .silence
  | fellAsleep =>
    rw [Server.react]
    split
    · next identity number seated =>
      have proper : (Notice.sleep identity.nickname).Proper :=
        Notice.proper_of_single rfl (underway.valid_seated? seated)
      exact underway.tellRoom proper number _
    · exact underway

theorem sweepCore (now : Nanos) : Underway bytes (server.sweepCore now) := by
  have beat : Underway bytes
      { server with sessions := (server.sessions.beat now).sessions } := by
    apply underway.of_sessions
    intro asked later found
    rw [Sessions.get?_beat] at found
    rcases Option.map_eq_some_iff.1 found with ⟨earlier, found', rfl⟩
    exact ⟨earlier, found', rfl, rfl⟩
  rw [Server.sweepCore]
  refine List.foldlRecOn _ _ (List.foldlRecOn _ _ beat ?_) ?_
  · intro _ pinged id _
    exact Underway.tell pinged (Notice.proper_of_nameless rfl) id
  · intro _ reacted event _
    exact Underway.react reacted event

/-- When the call ends, its lines are queued behind what was there. -/
theorem handOver :
    Underway (fun id => bytes id ++ (server.lines id).flatMap Notice.bytes) server.handOver := by
  refine ⟨?_, underway.said⟩
  intro id later found
  rw [get?_handOver] at found
  rcases Option.map_eq_some_iff.1 found with ⟨session, found', rfl⟩
  have holds := underway.holds found'
  exact ⟨holds.filed, congrArg (· ++ _) holds.outgoing, holds.valid⟩

end Underway

/-! ## Attempts to write -/

theorem sessions_handOver_of_silent (silent : server.said = []) :
    server.handOver.sessions = server.sessions := by
  rw [Server.handOver, mail, silent]
  exact Sessions.deliver_nil _

theorem taken_transmit (server : Server) (id : ConnectionId) (uptake : Uptake) :
    (server.transmit id uptake).1 = uptake.taken (server.output id) := by
  cases found : server.sessions.get? id with
  | none => simp [transmit, transmitCore, found, output_of_missing found]
  | some session => simp [transmit, transmitCore, found, output_of_get? found]

/-- A session that has taken part in an attempt to write and is still there is as the attempt has
left it. -/
theorem Filed.eq_of_transmit {session later : Session} {uptake : Uptake} (filed : server.Filed)
    (found : server.sessions.get? id = some session)
    (live : (server.transmit id uptake).2.sessions.get? id = some later) :
    later = (session.transmit uptake).session := by
  have standing := Session.standing_eq_iff.1 (session.standing_transmit uptake)
  simp only [transmit, transmitCore, found] at live
  split at live
  · rw [sessions_handOver_of_silent rfl,
      Sessions.get?_put_of_get? found (standing.1.trans (filed found)), if_pos rfl] at live
    exact (Option.some.inj live).symm
  · rw [get?_handOver, get?_terminate] at live
    cases live

/-- No byte is lost and none is there twice, unless the session is ended. -/
theorem Filed.transmit_of_takesNothing {uptake : Uptake} (filed : server.Filed)
    (nothing : uptake.TakesNothing) (id : ConnectionId) :
    (server.transmit id uptake).1 = [] ∧ ∀ later,
      (server.transmit id uptake).2.sessions.get? id = some later →
        server.sessions.get? id = some later := by
  refine ⟨(taken_transmit server id uptake).trans (Uptake.taken_of_takesNothing nothing _), ?_⟩
  intro later live
  cases found : server.sessions.get? id with
  | none =>
    simp only [transmit, transmitCore, found] at live
    rw [sessions_handOver_of_silent rfl] at live
    cases found.symm.trans live
  | some session =>
    rcases session.transmit_of_takesNothing nothing with ⟨drained, unsent⟩
    rw [filed.eq_of_transmit found live, unsent]
    rfl

theorem Filed.transmit_of_blocked {fault : Fault} (filed : server.Filed)
    (blocked : fault = .wouldBlock ∨ fault = .interrupted) (id asked : ConnectionId) :
    (server.transmit id (.fault fault)).2.sessions.get? asked = server.sessions.get? asked := by
  cases found : server.sessions.get? id with
  | none =>
    simp only [transmit, transmitCore, found]
    rw [sessions_handOver_of_silent rfl]
  | some session =>
    rcases session.transmit_of_blocked blocked with ⟨drained, unsent⟩
    simp only [transmit, transmitCore, found, unsent, Session.unsent]
    rw [sessions_handOver_of_silent rfl, Sessions.get?_put_of_get? found (filed found)]
    split
    · next same => rw [same, found]
    · rfl

/-! ## Ledgers -/

theorem Underway.own (underway : Underway bytes server) : Underway server.output server := by
  refine ⟨?_, underway.said⟩
  intro id session found
  have holds := underway.holds found
  exact ⟨holds.filed, (output_of_get? found).symm, holds.valid⟩

theorem Underway.proper_lines (underway : Underway bytes server) (id : ConnectionId) :
    ∀ notice ∈ server.lines id, notice.Proper := by
  intro notice member
  rcases List.mem_map.1 member with ⟨delivery, said, rfl⟩
  exact underway.said delivery (List.mem_reverse.1 (List.mem_filter.1 said).1)

/-- Something that happens to a server from outside. -/
inductive Occasion
  | call (call : Call)
  /-- Somebody has a session ended, for a reason of their own. -/
  | dismiss (id : ConnectionId) (reason : String)

namespace Occasion

/-- The server after an occasion. -/
def next (server : Server) : Occasion → Server
  | .call event => server.afterCall event
  | .dismiss id reason => server.dismiss id reason

/-- The bytes that a connection takes on an occasion. That is for the connection to say, and not for
the server: of what the session still has to send it takes as much as it answers. -/
def taken (server : Server) : Occasion → ConnectionId → Bytes
  | .call (.transmit id uptake), asked =>
    if asked = id then uptake.taken (server.output id) else []
  | _, _ => []

/-- The lines that are queued for a connection on an occasion that leads to a server. -/
def queued (next : Server) : Occasion → ConnectionId → List Notice
  | .call event, id => next.queued event id
  | .dismiss _ _, id => next.lines id

end Occasion

/-- A server, and for every live connection the bytes that it has taken and the lines that have been
queued for it. -/
structure Ledger where
  server : Server
  taken : ConnectionId → Bytes
  queued : ConnectionId → List Notice

namespace Ledger

/-- The ledger of a server without clients, whose configuration may be any. -/
def start (config : ServerConfig) (deals : List Deal) : Ledger where
  server := .start config deals
  taken _ := []
  queued _ := []

/-- The ledger with a later server, and with what has been taken and queued in between. Of a
connection that is gone nothing is kept. -/
def enter (ledger : Ledger) (next : Server) (taken : ConnectionId → Bytes)
    (queued : ConnectionId → List Notice) : Ledger where
  server := next
  taken id := if (next.sessions.get? id).isSome then ledger.taken id ++ taken id else []
  queued id := if (next.sessions.get? id).isSome then ledger.queued id ++ queued id else []

def after (ledger : Ledger) (occasion : Occasion) : Ledger :=
  let next := occasion.next ledger.server
  ledger.enter next (occasion.taken ledger.server) (occasion.queued next)

/-- The ledger after several occasions. -/
def run (ledger : Ledger) (occasions : List Occasion) : Ledger :=
  occasions.foldl after ledger

/-- What has been taken and what is still to be sent make up what has been queued. -/
structure Balanced (ledger : Ledger) : Prop where
  balance : ∀ id, ledger.taken id ++ ledger.server.output id =
    (ledger.queued id).flatMap Notice.bytes
  underway : Underway ledger.server.output ledger.server
  proper : ∀ id, ∀ notice ∈ ledger.queued id, notice.Proper

theorem balanced_start (config : ServerConfig) (deals : List Deal) :
    (start config deals).Balanced := by
  refine ⟨fun _ => rfl, ⟨?_, ?_⟩, ?_⟩
  · intro id session found
    cases found
  · intro delivery said
    cases said
  · intro id notice member
    cases member

variable {ledger : Ledger}

/-- A ledger stays balanced if what was to be sent, and the new lines behind it, are what is taken
and what is left. -/
theorem Balanced.enter (balanced : ledger.Balanced) {next : Server} {taken : ConnectionId → Bytes}
    {queued : ConnectionId → List Notice} (underway : Underway next.output next)
    (carries : ∀ {id session}, next.sessions.get? id = some session →
      ledger.server.output id ++ (queued id).flatMap Notice.bytes = taken id ++ session.outgoing)
    (proper : ∀ id, ∀ notice ∈ queued id, notice.Proper) :
    (ledger.enter next taken queued).Balanced := by
  refine ⟨?_, underway, ?_⟩
  · intro id
    simp only [Ledger.enter]
    cases found : next.sessions.get? id with
    | none => simp [output_of_missing found]
    | some session =>
      simp only [Option.isSome_some, if_true, output_of_get? found]
      calc ledger.taken id ++ taken id ++ session.outgoing
          = (ledger.taken id ++ ledger.server.output id) ++ (queued id).flatMap Notice.bytes := by
            rw [List.append_assoc, ← carries found, List.append_assoc]
        _ = (ledger.queued id ++ queued id).flatMap Notice.bytes := by
            rw [balanced.balance id, List.flatMap_append]
  · intro id notice member
    simp only [Ledger.enter] at member
    split at member
    · rcases List.mem_append.1 member with old | new
      · exact balanced.proper id notice old
      · exact proper id notice new
    · cases member

/-- The lines of a call are put down when it ends, together with the bytes that were taken in it. -/
theorem Balanced.handOver (balanced : ledger.Balanced) {core : Server}
    {bytes taken : ConnectionId → Bytes} (underway : Underway bytes core)
    (taking : ∀ id, ledger.server.output id = taken id ++ bytes id) :
    (ledger.enter core.handOver taken core.lines).Balanced := by
  have later := underway.handOver
  refine balanced.enter later.own ?_ underway.proper_lines
  intro id session found
  rw [taking, (later.holds found).outgoing, List.append_assoc]

theorem Balanced.after (balanced : ledger.Balanced) (occasion : Occasion) :
    (ledger.after occasion).Balanced := by
  have begun := balanced.underway.begin
  have said {core : Server} (underway : Underway ledger.server.output core) :
      (ledger.enter core.handOver (fun _ => []) core.lines).Balanced :=
    balanced.handOver underway fun _ => rfl
  cases occasion with
  | dismiss id reason => exact said (begun.terminate id (.asked reason))
  | call call =>
    cases call with
    | accept id now => exact said (begun.acceptCore output_of_missing now)
    | receive id arrivals now => exact said (begun.receiveCore id arrivals now)
    | sweep now => exact said (begun.sweepCore now)
    | transmit id uptake =>
      rcases begun.transmitCore id uptake with ⟨left, underway, taking⟩
      exact balanced.handOver underway taking
    | takeClosings =>
      -- Nothing is handed over; what was said in the last call has been put down already.
      refine balanced.enter (balanced.underway.of_eq rfl rfl) ?_ ?_
      · intro id session found
        exact (List.append_nil _).trans (output_of_get? found)
      · intro id notice member
        cases member

theorem Balanced.run (balanced : ledger.Balanced) (occasions : List Occasion) :
    (ledger.run occasions).Balanced := by
  induction occasions generalizing ledger with
  | nil => exact balanced
  | cons occasion later ih => exact ih (balanced.after occasion)

/-! ## The stream of a connection -/

/-- What each connection gets is the stream of the lines that are queued for it. -/
structure Lossless (ledger : Ledger) : Prop where
  /-- What has been taken and what is still to be sent are the queued lines, none missing, none
  twice, in their order. -/
  stream : ∀ {id session}, ledger.server.sessions.get? id = some session →
    ledger.taken id ++ session.outgoing = (ledger.queued id).flatMap Notice.bytes
  nicknames : ∀ id, ∀ notice ∈ ledger.queued id, ∀ nickname ∈ notice.nicknames, IsNickname nickname
  /-- This goes for everything that was said in the last call, whoever was there to hear it. -/
  mail : ∀ delivery ∈ ledger.server.mail, ∀ nickname ∈ delivery.notice.nicknames,
    IsNickname nickname
  /-- The stream is one frame for each queued line. -/
  frames : ∀ {id session}, ledger.server.sessions.get? id = some session →
    Wire.ReadsAs (ledger.taken id ++ session.outgoing) (ledger.queued id)
  /-- A client that has received only so much of it reads the first few of them. -/
  read : ∀ {id session}, ledger.server.sessions.get? id = some session →
    ∃ count, (Wire.cutAll (ledger.taken id)).1.map Wire.Cut.words =
      ((ledger.queued id).take count).map fun notice => .ok notice.words
  /-- Once there is nothing to send, a client has all of them and nothing else. -/
  drained : ∀ {id session}, ledger.server.sessions.get? id = some session →
    session.outgoing = [] → Wire.ReadsAs (ledger.taken id) (ledger.queued id)
  /-- What a connection takes comes off the front. -/
  front : ∀ {id session}, ledger.server.sessions.get? id = some session → ∀ uptake,
    (ledger.server.transmit id uptake).1 <+: session.outgoing
  /-- The server says that a connection has taken what it has taken. -/
  report : ∀ {id session}, ledger.server.sessions.get? id = some session → ∀ uptake,
    (ledger.server.transmit id uptake).1 = uptake.taken session.outgoing
  /-- What a connection has taken is not offered again, and all else is. -/
  rest : ∀ {id session}, ledger.server.sessions.get? id = some session → ∀ uptake later,
    (ledger.server.transmit id uptake).2.sessions.get? id = some later →
      uptake.taken session.outgoing ++ later.outgoing = session.outgoing
  /-- If nothing is brought over, nothing is counted as sent and the session stays as it is, unless
  it is ended for that. -/
  unsent : ∀ id {uptake : Uptake}, uptake.TakesNothing →
    (ledger.server.transmit id uptake).1 = [] ∧ ∀ later,
      (ledger.server.transmit id uptake).2.sessions.get? id = some later →
        ledger.server.sessions.get? id = some later
  /-- An attempt to write that has to wait changes no session. -/
  blocked : ∀ id {fault : Fault}, fault = .wouldBlock ∨ fault = .interrupted → ∀ asked,
    (ledger.server.transmit id (.fault fault)).2.sessions.get? asked =
      ledger.server.sessions.get? asked

theorem Balanced.lossless (balanced : ledger.Balanced) : ledger.Lossless := by
  have filed : ledger.server.Filed := fun _ _ => balanced.underway.filed
  have stream {id : ConnectionId} {session : Session}
      (found : ledger.server.sessions.get? id = some session) :
      ledger.taken id ++ session.outgoing = (ledger.queued id).flatMap Notice.bytes := by
    rw [← output_of_get? found]
    exact balanced.balance id
  have frames (id : ConnectionId) := Wire.readsAs_lines (balanced.proper id)
  have report {id : ConnectionId} {session : Session}
      (found : ledger.server.sessions.get? id = some session) (uptake : Uptake) :
      (ledger.server.transmit id uptake).1 = uptake.taken session.outgoing := by
    rw [taken_transmit, output_of_get? found]
  refine ⟨stream, balanced.proper, ?_, ?_, ?_, ?_, ?_, report, ?_, ?_, ?_⟩
  · intro delivery member
    exact balanced.underway.said delivery (List.mem_reverse.1 member)
  · intro id session found
    rw [stream found]
    exact frames id
  · intro id session found
    apply Wire.exists_read_of_part (balanced.proper id)
    rw [← stream found]
    exact List.prefix_append _ _
  · intro id session found nothing
    have whole := stream found
    rw [nothing, List.append_nil] at whole
    rw [whole]
    exact frames id
  · intro id session found uptake
    rw [report found]
    exact uptake.taken_prefix session.outgoing
  · intro id session found uptake later live
    rw [filed.eq_of_transmit found live]
    exact session.taken_append_outgoing uptake
  · intro id uptake nothing
    exact filed.transmit_of_takesNothing nothing id
  · intro id fault blocked asked
    exact filed.transmit_of_blocked blocked id asked

end Ledger

/-- In every run of a server, whatever its configuration, the lines that are queued for a connection
reach its client whole and in order, and can be read back. -/
theorem output_lossless (config : ServerConfig) (deals : List Deal) (occasions : List Occasion) :
    ((Ledger.start config deals).run occasions).Lossless :=
  ((Ledger.balanced_start config deals).run occasions).lossless

end Server

end CardTable
