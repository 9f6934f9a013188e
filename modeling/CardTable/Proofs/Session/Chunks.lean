import CardTable.Proofs.Wire.Segments

/-!
# Reading in chunks

A read takes in what has come in chunks of some size. What it brings does not hang on that size, nor
on how the bytes were cut by the connection: it is told by the bytes alone, and by the reason why
there are no more of them.
-/

namespace CardTable

/-! ## Bytes without chunks -/

namespace Arrival

/-- All bytes that come before the reader has to wait, the peer stops sending, or the connection
breaks. -/
def delivered : List Arrival → Bytes
  | .bytes first rest :: later => first :: rest ++ delivered later
  | .fault .interrupted :: later => delivered later
  | [] | .closed :: _ | .fault .wouldBlock :: _ | .fault (.broken _) :: _ => []

/-- Why no more bytes come after these, unless the reader only has to wait. -/
def ending : List Arrival → Option SessionError
  | .bytes _ _ :: later | .fault .interrupted :: later => ending later
  | .closed :: _ => some .peerClosed
  | .fault (.broken message) :: _ => some (.io message)
  | [] | .fault .wouldBlock :: _ => none

theorem delivered_cut (piece : Nat) (first : UInt8) (rest : Bytes) (later : List Arrival) :
    delivered (.bytes first rest :: later) =
      first :: rest.take piece ++ (rest.drop piece ++ delivered later) := by
  rw [delivered, List.cons_append, List.cons_append, ← List.append_assoc, List.take_append_drop]

theorem ending_ne_overflow (arrivals : List Arrival) (limit : Nat) :
    ending arrivals ≠ some (.bufferOverflow limit) := by
  fun_induction ending arrivals with
  | case1 later first rest ih => exact ih
  | case2 later ih => exact ih
  | case3 | case4 | case5 | case6 => simp

end Arrival

namespace Intake

variable {piece limit room : Nat} {bytes : Bytes} {ending : Option SessionError} {intake : Intake}

/-- What a read with room for `room` bytes brings of these bytes: all of them if there is room, and
otherwise not more than one piece too many. -/
structure Reads (piece limit room : Nat) (bytes : Bytes) (ending : Option SessionError)
    (intake : Intake) : Prop where
  fits : bytes.length ≤ room → intake = { received := bytes, failure := ending }
  spills : room < bytes.length → intake.failure = some (.bufferOverflow limit) ∧
    intake.received <+: bytes ∧ intake.received.length ≤ room + (piece + 1)

theorem reads_stop (piece limit room : Nat) (ending : Option SessionError) :
    Reads piece limit room [] ending (stop ending) :=
  ⟨fun _ => rfl, fun spills => (Nat.not_lt_zero _ spills).elim⟩

/-- A piece that leaves no room ends the reading, whatever would have come then. -/
theorem reads_spill {taken : Bytes} (short : taken.length ≤ piece + 1)
    (spills : room < taken.length) (later : Bytes) :
    Reads piece limit room (taken ++ later) ending
      (after taken (stop (some (.bufferOverflow limit)))) := by
  refine ⟨fun fits => ?_, fun _ => ⟨rfl, ?_, ?_⟩⟩
  · rw [List.length_append] at fits
    omega
  · simp [after, stop]
  · simp only [after, stop, List.append_nil]
    omega

/-- A piece that fits goes before what the rest of the reading brings. -/
theorem Reads.after {taken : Bytes}
    (reads : Reads piece limit (room - taken.length) bytes ending intake)
    (fits : ¬room < taken.length) :
    Reads piece limit room (taken ++ bytes) ending (after taken intake) := by
  constructor
  · intro whole
    rw [List.length_append] at whole
    rw [reads.fits (by omega)]
    rfl
  · intro spills
    rw [List.length_append] at spills
    rcases reads.spills (by omega) with ⟨failure, part, length⟩
    refine ⟨failure, (List.prefix_append_right_inj taken).2 part, ?_⟩
    simp only [Intake.after, List.length_append]
    omega

theorem reads_read (piece limit room : Nat) (arrivals : List Arrival) :
    Reads piece limit room (Arrival.delivered arrivals) (Arrival.ending arrivals)
      (read piece limit room arrivals) := by
  have short (first : UInt8) (rest : Bytes) : (first :: rest.take piece).length ≤ piece + 1 :=
    Nat.succ_le_succ (List.length_take_le piece rest)
  fun_induction read piece limit room arrivals with
  | case1 | case2 | case3 | case5 => exact reads_stop _ _ _ _
  | case4 room later ih => exact ih
  | case6 room first rest later taken spills =>
    rw [Arrival.delivered_cut piece]
    exact reads_spill (short first rest) spills _
  | case7 room first rest later taken fits whole ih =>
    rw [Arrival.delivered_cut piece, whole, List.nil_append]
    exact ih.after fits
  | case8 room first rest later taken fits next more left ih =>
    rw [Arrival.delivered_cut piece, left]
    exact ih.after fits

end Intake

namespace Session

variable {session : Session} {config : SessionConfig} {arrivals : List Arrival} {bytes : Bytes}
  {now : Nanos}

/-- The session once some bytes have come in, and whether they have woken it. -/
def hear (session : Session) (bytes : Bytes) (now : Nanos) : Bool × Session :=
  if bytes = [] then (false, session)
  else
    let touched := session.presence.touch now
    (touched.1, { session.grown bytes with presence := touched.2 })

theorem incoming_hear : (session.hear bytes now).2.incoming = session.incoming ++ bytes := by
  unfold hear
  split
  · next nothing => simp [nothing]
  · rfl

/-- What a session does with bytes that it has room for, and with the reason why there are no more
of them. -/
def takeIn (session : Session) (bytes : Bytes) (ending : Option SessionError) (now : Nanos) :
    Except SessionError Traffic × Session :=
  match ending with
  | some error => (.error error, session.grown bytes)
  | none => (.ok { bytes := bytes.length, woke := (session.hear bytes now).1 },
      (session.hear bytes now).2)

theorem incoming_takeIn (ending : Option SessionError) :
    (session.takeIn bytes ending now).2.incoming = session.incoming ++ bytes := by
  unfold takeIn
  split
  · rfl
  · exact incoming_hear

theorem receive_of_fits
    (fits : session.incoming.length + (Arrival.delivered arrivals).length ≤ config.backlogLimit)
    (now : Nanos) :
    session.receive config arrivals now =
      session.takeIn (Arrival.delivered arrivals) (Arrival.ending arrivals) now := by
  have reads := Intake.reads_read (config.readChunk - 1) config.backlogLimit
    (config.backlogLimit - session.incoming.length) arrivals
  rw [receive, reads.fits (by omega)]
  cases Arrival.ending arrivals with
  | some error => rfl
  | none =>
    by_cases nothing : Arrival.delivered arrivals = []
    · simp [takeIn, hear, nothing]
    · simp [takeIn, hear, nothing, grown]

theorem incoming_receive_of_nothing (nothing : Arrival.delivered arrivals = [])
    (config : SessionConfig) (session : Session) (now : Nanos) :
    (session.receive config arrivals now).2.incoming = session.incoming := by
  have reads := Intake.reads_read (config.readChunk - 1) config.backlogLimit
    (config.backlogLimit - session.incoming.length) arrivals
  rw [receive, reads.fits (by simp [nothing]), nothing]
  dsimp only
  split
  · exact List.append_nil _
  · exact List.append_nil _

theorem receive_of_spills
    (spills : config.backlogLimit < session.incoming.length + (Arrival.delivered arrivals).length)
    (within : session.incoming.length ≤ config.backlogLimit) (now : Nanos) :
    ∃ received, session.receive config arrivals now = (.error (.bufferOverflow config.backlogLimit),
        session.grown received) ∧
      received <+: Arrival.delivered arrivals ∧
      session.incoming.length + received.length ≤ config.backlogLimit + max config.readChunk 1 := by
  have reads := Intake.reads_read (config.readChunk - 1) config.backlogLimit
    (config.backlogLimit - session.incoming.length) arrivals
  rcases reads.spills (by omega) with ⟨failure, part, length⟩
  refine ⟨_, ?_, part, by omega⟩
  simp only [receive, failure, grown]

/-- What a read brings, whatever the chunks are and however the connection cuts the bytes. -/
structure ReadsWhole (config : SessionConfig) (session : Session) (arrivals : List Arrival)
    (now : Nanos) : Prop where
  /-- Other chunks, and other cuts of the same bytes, give the same traffic or the same error. -/
  outcome : ∀ chunk others, Arrival.delivered others = Arrival.delivered arrivals →
    Arrival.ending others = Arrival.ending arrivals →
    (session.receive { config with readChunk := chunk } others now).1 =
      (session.receive config arrivals now).1
  /-- Unless there is no room, they also leave the same session, with all bytes taken in. -/
  whole : (session.receive config arrivals now).1 ≠ .error (.bufferOverflow config.backlogLimit) →
    (∀ chunk others, Arrival.delivered others = Arrival.delivered arrivals →
      Arrival.ending others = Arrival.ending arrivals →
      (session.receive { config with readChunk := chunk } others now).2 =
        (session.receive config arrivals now).2) ∧
    (session.receive config arrivals now).2.incoming =
      session.incoming ++ Arrival.delivered arrivals
  /-- A read without an error counts all bytes, and ends because there is nothing more. -/
  counts : ∀ traffic, (session.receive config arrivals now).1 = .ok traffic →
    traffic.bytes = (Arrival.delivered arrivals).length ∧ Arrival.ending arrivals = none
  overflow_iff : (session.receive config arrivals now).1 =
      .error (.bufferOverflow config.backlogLimit) ↔
    config.backlogLimit < session.incoming.length + (Arrival.delivered arrivals).length
  /-- In any case nothing comes in but what was delivered, and not much too much of it. -/
  bounded : ∃ received, (session.receive config arrivals now).2.incoming =
      session.incoming ++ received ∧ received <+: Arrival.delivered arrivals ∧
    session.incoming.length + received.length ≤ config.backlogLimit + max config.readChunk 1

theorem readsWhole_of_fits
    (fits : session.incoming.length + (Arrival.delivered arrivals).length ≤ config.backlogLimit) :
    session.ReadsWhole config arrivals now := by
  have received := receive_of_fits fits now
  have same (chunk : Nat) (others : List Arrival)
      (delivered : Arrival.delivered others = Arrival.delivered arrivals)
      (ending : Arrival.ending others = Arrival.ending arrivals) :
      session.receive { config with readChunk := chunk } others now =
        session.receive config arrivals now := by
    rw [received, ← delivered, ← ending]
    exact receive_of_fits (delivered ▸ fits) now
  have incoming : (session.receive config arrivals now).2.incoming =
      session.incoming ++ Arrival.delivered arrivals := by
    rw [received, incoming_takeIn]
  refine {
    outcome := fun chunk others delivered ending =>
      congrArg Prod.fst (same chunk others delivered ending)
    whole := fun _ => ⟨fun chunk others delivered ending =>
      congrArg Prod.snd (same chunk others delivered ending), incoming⟩
    counts := ?_
    overflow_iff := iff_of_false ?_ (Nat.not_lt.2 fits)
    bounded := ⟨_, incoming, List.prefix_rfl, by omega⟩ }
  · intro traffic read
    rw [received] at read
    unfold takeIn at read
    split at read
    · cases read
    · next ended =>
      cases read
      exact ⟨rfl, ended⟩
  · intro overflow
    rw [received] at overflow
    unfold takeIn at overflow
    split at overflow
    · next ended =>
      cases overflow
      exact Arrival.ending_ne_overflow _ _ ended
    · cases overflow

theorem readsWhole_of_spills
    (spills : config.backlogLimit < session.incoming.length + (Arrival.delivered arrivals).length)
    (within : session.incoming.length ≤ config.backlogLimit) :
    session.ReadsWhole config arrivals now := by
  rcases receive_of_spills spills within now with ⟨received, overflow, part, length⟩
  have failed := congrArg Prod.fst overflow
  refine {
    outcome := ?_
    whole := fun fine => (fine failed).elim
    counts := ?_
    overflow_iff := iff_of_true failed spills
    bounded := ⟨received, congrArg (fun read => read.2.incoming) overflow, part, length⟩ }
  · intro chunk others delivered _
    have rechunked : ({ config with readChunk := chunk } : SessionConfig).backlogLimit <
        session.incoming.length + (Arrival.delivered others).length := delivered ▸ spills
    rcases receive_of_spills rechunked within now with ⟨_, overflow', _⟩
    exact (congrArg Prod.fst overflow').trans failed.symm
  · intro traffic read
    cases failed.symm.trans read

/-- What a read brings hangs neither on the size of its chunks nor on how the bytes were cut. -/
theorem readsWhole_receive (within : session.incoming.length ≤ config.backlogLimit)
    (arrivals : List Arrival) (now : Nanos) : session.ReadsWhole config arrivals now := by
  rcases Nat.lt_or_ge config.backlogLimit
      (session.incoming.length + (Arrival.delivered arrivals).length) with spills | fits
  · exact readsWhole_of_spills spills within
  · exact readsWhole_of_fits fits

/-- Four bytes wait in a session with room for eight, and five more come in two pieces before the
peer stops sending. -/
theorem readsWhole_of_four_waiting :
    ({ fresh 1 0 with incoming := Wire.bytesOf "PRSI" } : Session).incoming.length ≤ 8 ∧
    ({ fresh 1 0 with incoming := Wire.bytesOf "PRSI" } : Session).ReadsWhole
      { backlogLimit := 8, readChunk := 2 }
      [.bytes 0x20 [0x50, 0x4f], .fault .interrupted, .bytes 0x4e [0x47], .closed] 50 :=
  ⟨by decide, readsWhole_receive (by decide) _ _⟩

end Session

end CardTable
