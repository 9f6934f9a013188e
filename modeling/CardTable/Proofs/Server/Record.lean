import CardTable.Proofs.Server.Sweeps

/-!
# Records

What a client can know of a run: the lines that have been queued for its connection since it came,
and the cards that it has asked to lay. A record keeps both for every live connection, from call to
call.
-/

namespace CardTable.Server

variable {server : Server} {id : ConnectionId}

/-- The lines that are queued for a connection in a call. When the closings are taken, what was said
before stays as it is. -/
def queued (next : Server) (call : Call) (id : ConnectionId) : List Notice :=
  match call with
  | .takeClosings => []
  | _ => next.lines id

/-- The cards that a connection asks to lay in a call. -/
def asked (server : Server) (call : Call) (id : ConnectionId) : List Card :=
  match call with
  | .receive sender arrivals now => if id = sender then server.cardsIn sender arrivals now else []
  | _ => []

/-- What is said in a call goes out line by line. -/
theorem get?_handOver (server : Server) (id : ConnectionId) :
    server.handOver.sessions.get? id = (server.sessions.get? id).map fun session =>
      { session with outgoing := session.outgoing ++ (server.lines id).flatMap Notice.bytes } := by
  rw [handOver, Sessions.get?_deliver, lines, List.flatMap_map]
  rfl

theorem awake_handOver (server : Server) : server.handOver.awake = server.awake := by
  funext id
  rw [awake, awake, get?_handOver]
  cases server.sessions.get? id <;> rfl

section Tracks

variable {told : ConnectionId → Bool} {heard : ConnectionId → List Notice}
  {plays asks : ConnectionId → List Card}

/-- What has been learned through connections that are gone does not matter. -/
theorem Informed.forget {words : ConnectionId → List Word} (informed : server.Informed told words)
    (indexed : server.sessions.Indexed) :
    server.Informed told fun id => if (server.sessions.get? id).isSome then words id else [] := by
  refine ⟨?_, ?_⟩
  · intro id player number sits
    rcases indexed.exists_identity sits.leads with ⟨session, _, found, _⟩
    simpa [found] using informed.seated sits
  · intro id session found unnamed
    simpa [found] using informed.nameless found unnamed

/-- What has been said in a call counts among what was heard once it has gone out. -/
theorem Tracks.handOver (tracks : server.Tracks told heard plays) :
    ({ server.handOver with said := [] } : Server).Tracks told
      (fun id => heard id ++ server.lines id) plays := by
  rcases tracks with ⟨words, informed, lines, cards, plain⟩
  let next : Server := { server.handOver with said := [] }
  have people : server.SamePeople next :=
    samePeople_of_alike (Sessions.alike_deliver server.sessions server.mail)
  have shown := @shown_of_people server next told (fun _ => []) people rfl (by simp)
  refine ⟨words, by simpa using informed.step shown, ?_, cards, plain⟩
  intro id
  rw [lines]
  exact (List.append_nil _).symm

/-- Between two calls, what was heard and laid on connections that are gone can be forgotten. -/
theorem Tracks.forget (tracks : server.Tracks told heard plays) (indexed : server.sessions.Indexed)
    (silent : server.said = [])
    (same : ∀ id, server.sessions.get? id ≠ none → plays id = asks id) :
    server.Tracks told (fun id => if (server.sessions.get? id).isSome then heard id else [])
      (fun id => if (server.sessions.get? id).isSome then asks id else []) := by
  rcases tracks with ⟨words, informed, lines, cards, plain⟩
  have unsaid (id : ConnectionId) : server.lines id = [] := by simp [Server.lines, mail, silent]
  refine ⟨_, informed.forget indexed, ?_, ?_, ?_⟩
  · intro id
    rw [unsaid, List.append_nil]
    split
    · rw [lines, unsaid, List.append_nil]
    · rfl
  · intro id
    split
    · next live => rw [cards, same id (Option.isSome_iff_ne_none.1 live)]
    · rfl
  · intro id word member
    split at member
    · exact plain id word member
    · cases member

end Tracks

/-- A server, and for every live connection the lines that have been queued for it and the cards that
it has asked to lay. -/
structure Record where
  server : Server
  heard : ConnectionId → List Notice
  plays : ConnectionId → List Card

namespace Record

def start (config : ServerConfig) (deals : List Deal) : Record where
  server := .start config.validated deals
  heard _ := []
  plays _ := []

/-- The record after a call. Of a connection that is gone nothing is kept. -/
def after (record : Record) (call : Call) : Record :=
  let next := record.server.afterCall call
  { server := next
    heard id := if (next.sessions.get? id).isSome then record.heard id ++ next.queued call id else []
    plays id :=
      if (next.sessions.get? id).isSome then record.plays id ++ record.server.asked call id
      else [] }

/-- The record after several calls. -/
def run (record : Record) (calls : List Call) : Record :=
  calls.foldl after record

theorem server_run (record : Record) (calls : List Call) :
    (record.run calls).server = record.server.run calls := by
  induction calls generalizing record with
  | nil => rfl
  | cons call calls ih => exact ih (record.after call)

/-- What a client learns: its lines, each acceptance of a card with the card. -/
def words (record : Record) (id : ConnectionId) : List Word :=
  paired (record.plays id) (record.heard id)

/-! ## Between two calls -/

/-- The clients are informed by what is on record. -/
structure Coherent (record : Record) : Prop where
  linked : record.server.Linked
  rested : record.server.Rested record.server.awake
  tracks : ({ record.server with said := [] } : Server).Tracks record.server.awake record.heard
    record.plays
  silent : ∀ id, record.server.sessions.get? id = none →
    record.heard id = [] ∧ record.plays id = []

variable {record : Record} {call : Call}

theorem coherent_start (config : ServerConfig) (deals : List Deal) :
    (start config deals).Coherent := by
  refine ⟨linked_start config deals, ?_, ?_, fun _ _ => ⟨rfl, rfl⟩⟩
  · intro id session found
    cases found
  · refine ⟨fun _ => [], ⟨?_, ?_⟩, fun _ => rfl, fun _ => rfl, by simp⟩
    · intro id player number sits
      cases sits.leads
    · intro id session found
      cases found

/-- Handing over what was said changes nothing that has come in, and nobody's sleep. -/
theorem rested_handOver {server : Server} (rested : server.Rested server.awake) :
    server.handOver.Rested server.handOver.awake := by
  intro id later found
  rw [get?_handOver] at found
  rcases Option.map_eq_some_iff.1 found with ⟨session, found', rfl⟩
  rw [awake_handOver]
  exact (rested found').of_same rfl rfl

/-- When a call is over, what has been said goes on record, and what was known of connections that
are gone is forgotten. -/
theorem coherent_handOver {server : Server} {heard : ConnectionId → List Notice}
    {plays laid asks : ConnectionId → List Card} (linked : server.Linked)
    (rested : server.Rested server.awake)
    (tracks : server.Tracks server.awake heard fun id => plays id ++ laid id)
    (all : ∀ id, server.sessions.get? id ≠ none → laid id = asks id) :
    ({ server := server.handOver
       heard := fun id => if (server.handOver.sessions.get? id).isSome then heard id ++ server.lines id
         else []
       plays := fun id => if (server.handOver.sessions.get? id).isSome then plays id ++ asks id
         else [] } : Record).Coherent := by
  have linked' : server.handOver.Linked := Step.finish.linked linked
  refine ⟨linked', rested_handOver rested, ?_, ?_⟩
  · have same : ∀ id, server.handOver.sessions.get? id ≠ none →
        plays id ++ laid id = plays id ++ asks id := by
      intro id live
      rw [get?_handOver, ne_eq, Option.map_eq_none_iff] at live
      rw [all id live]
    have kept := tracks.handOver.forget linked'.indexed rfl same
    exact awake_handOver server ▸ kept
  · intro id gone
    simp [gone]

/-- After every call what is on record informs the clients. -/
theorem Coherent.after (coherent : record.Coherent) (call : Call) : (record.after call).Coherent := by
  rcases record with ⟨server, heard, plays⟩
  rcases coherent with ⟨linked, rested, tracks, silent⟩
  dsimp only at linked rested tracks silent
  let idle : Server := { server with said := [] }
  have linked' : idle.Linked := Step.begin.linked linked
  have carried {next : Server} {laid : ConnectionId → List Card} (asks : ConnectionId → List Card)
      (carries : idle.Carries next laid)
      (all : ∀ id, next.sessions.get? id ≠ none → laid id = asks id) :=
    coherent_handOver carries.linked carries.rested (carries.tracks tracks) all
  cases call with
  | accept id now =>
    have unheard (missing : idle.sessions.get? id = none) : heard id = [] ∧ idle.lines id = [] :=
      ⟨(silent id missing).1, rfl⟩
    have accepted := tracks_acceptCore linked' unheard tracks now
    exact @coherent_handOver _ heard plays (fun _ => []) (fun _ => [])
      ((Step.accept id now).linked linked') (@rested_acceptCore idle rested id now)
      (by simpa using accepted) (fun _ _ => rfl)
  | receive id arrivals now =>
    rcases carries_receiveCore linked' rested id arrivals now with ⟨cards, carries, all⟩
    refine carried (fun asked => if asked = id then idle.cardsIn id arrivals now else [])
      carries ?_
    intro asked live
    split
    · next same => exact all (same ▸ live)
    · rfl
  | transmit id uptake =>
    exact carried (fun _ => []) (carries_transmitCore linked' rested id uptake)
      (fun _ _ => rfl)
  | sweep now =>
    exact carried (fun _ => []) (carries_sweepCore linked' rested now) (fun _ _ => rfl)
  | takeClosings =>
    -- The lines of the last call are still there, and must not be put on record twice.
    let taken : Server := server.takeClosings.2
    have same : Record.after ⟨server, heard, plays⟩ .takeClosings = ⟨taken, heard, plays⟩ := by
      have kept (id : ConnectionId) :
          (if (server.sessions.get? id).isSome then heard id ++ [] else []) = heard id ∧
            (if (server.sessions.get? id).isSome then plays id ++ [] else []) = plays id := by
        cases found : server.sessions.get? id with
        | none => simp [(silent id found).1, (silent id found).2]
        | some session => simp
      exact congrArg₂ (Record.mk taken) (funext fun id => (kept id).1) (funext fun id => (kept id).2)
    rw [same]
    refine ⟨Step.collect.linked linked, rested, ?_, silent⟩
    exact tracks.of_people (samePeople_of_eq rfl) rfl rfl

theorem Coherent.run (coherent : record.Coherent) (calls : List Call) :
    (record.run calls).Coherent := by
  induction calls generalizing record with
  | nil => exact coherent
  | cons call calls ih => exact ih (coherent.after call)

end Record

/-- After every call everybody has been told who is awake, and nothing is left to be read. -/
theorem Rested.afterCall {server : Server} (rested : server.Rested server.awake)
    (linked : server.Linked) (call : Call) :
    (server.afterCall call).Rested (server.afterCall call).awake := by
  have linked' : ({ server with said := [] } : Server).Linked := Step.begin.linked linked
  cases call with
  | accept id now =>
    exact Record.rested_handOver (@rested_acceptCore { server with said := [] } rested id now)
  | receive id arrivals now =>
    rcases carries_receiveCore linked' rested id arrivals now with ⟨cards, carries, _⟩
    exact Record.rested_handOver carries.rested
  | transmit id uptake =>
    exact Record.rested_handOver (carries_transmitCore linked' rested id uptake).rested
  | sweep now => exact Record.rested_handOver (carries_sweepCore linked' rested now).rested
  | takeClosings => exact rested

end CardTable.Server
