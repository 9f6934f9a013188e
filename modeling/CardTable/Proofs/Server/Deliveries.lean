import CardTable.Proofs.Server.Closings
import CardTable.Proofs.Server.Knowledge
import CardTable.Proofs.Server.VeiledRequests
import CardTable.Proofs.Session.Chunks
import CardTable.Proofs.Wire.Segments

/-!
# What clients send in pieces

The bytes that a client sends may come in one call or in two. The same is done in both cases, with
one exception: when there is something wrong with the frames that come in a call, none of them is
served, also not those in front of the problem; had these come in a call of their own, they would have
been.
-/

namespace CardTable

/-! ## Arrivals -/

namespace Arrival

/-- What several arrivals bring, if reading ends because nothing more is there. -/
def brought? : List Arrival → Option Bytes
  | [] | .fault .wouldBlock :: _ => some []
  | .fault .interrupted :: later => brought? later
  | .bytes first rest :: later => (brought? later).map (first :: rest ++ ·)
  | .closed :: _ | .fault (.broken _) :: _ => none

theorem delivered_of_brought {arrivals : List Arrival} {bytes : Bytes}
    (brought : brought? arrivals = some bytes) :
    delivered arrivals = bytes ∧ ending arrivals = none := by
  fun_induction brought? arrivals generalizing bytes with
  | case1 | case2 =>
    cases brought
    exact ⟨rfl, rfl⟩
  | case3 later ih => exact ih brought
  | case4 first rest later ih =>
    rcases Option.map_eq_some_iff.1 brought with ⟨more, brought', rfl⟩
    rcases ih brought' with ⟨rfl, ending⟩
    exact ⟨rfl, ending⟩
  | case5 | case6 => cases brought

end Arrival

theorem Wire.length_readFrames_le (bytes : Bytes) : (readFrames bytes).2.length ≤ bytes.length := by
  fun_induction readFrames bytes with
  | case1 | case2 | case3 => exact Nat.le_refl _
  | case4 _ _ _ _ _ whole => exact (length_rest_lt whole).le
  | case5 _ _ _ _ _ whole _ ih => exact ih.trans (length_rest_lt whole).le

namespace Session

variable {session : Session} {config : SessionConfig} {bytes later : Bytes} {now : Nanos}

theorem receive_of_brought {arrivals : List Arrival}
    (brought : Arrival.brought? arrivals = some bytes)
    (fits : session.incoming.length + bytes.length ≤ config.backlogLimit) :
    session.receive config arrivals now =
      (.ok { bytes := bytes.length, woke := (session.hear bytes now).1 },
        (session.hear bytes now).2) := by
  rcases Arrival.delivered_of_brought brought with ⟨rfl, ending⟩
  rw [receive_of_fits fits now, ending]
  rfl

/-- Whoever has just been heard cannot be woken. -/
theorem hear_of_touched {presence : Presence} (touched : session.presence = (presence.touch now).2) :
    session.hear bytes now = (false, session.grown bytes) := by
  have again : session.presence.touch now = (false, session.presence) := by
    rw [touched]
    unfold Presence.touch
    split <;> simp_all
  unfold hear
  split
  · next nothing => simp [nothing, grown]
  · rw [again]
    rfl

theorem standing_takeFrames_hear (bytes : Bytes) (now : Nanos) :
    (session.hear bytes now).2.takeFrames.2.standing = session.standing := by
  rw [standing_takeFrames, hear]
  split <;> rfl

theorem presence_hear (something : bytes ≠ []) :
    (session.hear bytes now).2.presence = (session.presence.touch now).2 := by
  rw [hear, if_neg something]

theorem hear_append (something : bytes ≠ []) (later : Bytes) :
    session.hear (bytes ++ later) now =
      ((session.hear bytes now).1, (session.hear bytes now).2.grown later) := by
  have something' : bytes ++ later ≠ [] := by simp [something]
  rw [hear, hear, if_neg something, if_neg something']
  simp [grown]

/-- Which frames there are, and what is left over, hangs on what has come in and on nothing else. -/
theorem takeFrames_of_incoming {other : Session} (same : session.incoming = other.incoming) :
    session.takeFrames.1 = other.takeFrames.1 ∧
      session.takeFrames.2.incoming = other.takeFrames.2.incoming := by
  simp [takeFrames, same]

/-- The session without the white space in front of what has come in. -/
def skipped (session : Session) : Session :=
  { session with incoming := Wire.skipBlanks session.incoming }

end Session

theorem Sessions.ext_get? {sessions other : Sessions} (config : sessions.config = other.config)
    (byName : sessions.byName = other.byName) (byPlayer : sessions.byPlayer = other.byPlayer)
    (found : ∀ id, sessions.get? id = other.get? id) : sessions = other := by
  have live : sessions.live = other.live := Directory.ext_get? found
  cases sessions
  cases other
  simp_all

theorem Sessions.bytesFor_append (mail later : List Delivery) (id : ConnectionId) :
    bytesFor (mail ++ later) id = bytesFor mail id ++ bytesFor later id := by
  simp [bytesFor]

/-! ## Veils without a hand -/

namespace Veil

/-- The veil over what is left over in a session and over what goes out. -/
def refilled (id : ConnectionId) (rest : Bytes) (mail : List Delivery) : Veil where
  incoming asked bytes := if asked = id then rest else bytes
  outgoing asked bytes := bytes ++ Sessions.bytesFor mail asked

variable {veil : Veil}

theorem lobby_eq_self (bare : veil.hidden = none) (lobby : Lobby) : veil.lobby lobby = lobby := by
  have plain (number : RoomId) : veil.game number = id :=
    game_eq_id fun hidden here => by rw [bare] at here; cases here
  have rooms : lobby.rooms.mapEntries (fun _ => veil.room) = lobby.rooms := by
    apply Directory.ext_get?
    intro asked
    rw [Directory.get?_mapEntries]
    cases lobby.rooms.get? asked with
    | none => rfl
    | some room =>
      rcases room with ⟨_, _, _, waiting | game | game⟩ <;> simp [Veil.room, Stage.mapGame, plain]
  exact congrArg (fun rooms => { lobby with rooms }) rooms

theorem sessions_eq_self {sessions : Sessions}
    (config : veil.config sessions.config = sessions.config)
    (kept : ∀ asked session, sessions.get? asked = some session →
      veil.session asked session = session) : veil.sessions sessions = sessions := by
  have live : sessions.live.mapEntries veil.session = sessions.live := by
    apply Directory.ext_get?
    intro asked
    rw [Directory.get?_mapEntries]
    cases found : sessions.live.get? asked with
    | none => rfl
    | some session => exact congrArg some (kept asked session found)
  rw [Veil.sessions, config, live]

end Veil

namespace Server

variable {server : Server} {id : ConnectionId} {session : Session}

/-! ## What comes of frames -/

/-- What comes of the frames that have been read from a session: they are served, unless there is
something wrong with them. -/
def act (server : Server) (id : ConnectionId) : Except SessionError (List Wire.Frame) → Server
  | .ok frames => server.serveFrames id frames
  | .error error => server.terminate id (.error (.session error))

/-- The server once some bytes have come in for a session, before their frames are served. -/
def hearing (server : Server) (id : ConnectionId) (session : Session) (bytes : Bytes)
    (now : Nanos) : Server :=
  ({ server with said := [] } : Server).woken id (session.hear bytes now).2.takeFrames.2
    (session.hear bytes now).1

theorem receive_eq_act {arrivals : List Arrival} {bytes : Bytes} {now : Nanos}
    (found : server.sessions.get? id = some session)
    (brought : Arrival.brought? arrivals = some bytes)
    (fits : session.incoming.length + bytes.length ≤ server.sessions.config.backlogLimit) :
    server.receive id arrivals now =
      ((server.hearing id session bytes now).act id
        (session.hear bytes now).2.takeFrames.1).handOver := by
  simp only [receive, during, receiveCore, found, Session.receive_of_brought brought fits]
  cases (session.hear bytes now).2.takeFrames.1 <;> rfl

section Linked

variable (linked : server.Linked)

include linked

theorem act_server {veil : Veil} (bare : veil.hidden = none)
    (frames : Except SessionError (List Wire.Frame)) :
    (veil.server server).act id frames = veil.server (server.act id frames) := by
  have covers : veil.Covers server.lobby := by
    rw [Veil.Covers, bare]
    rintro _ ⟨⟩
  cases frames with
  | ok frames =>
    refine (Veil.serveFrames_server linked covers ?_).1
    rw [bare]
    rintro _ ⟨⟩
  | error error =>
    refine (Veil.terminate_server linked covers ?_ _).1
    rintro player _
    rw [Veil.Blind, bare]
    rintro _ ⟨⟩

/-- Nobody is configured anew. -/
theorem config_act (frames : Except SessionError (List Wire.Frame)) :
    (server.act id frames).sessions.config = server.sessions.config := by
  let veil : Veil := { config := fun _ => server.sessions.config }
  have sessions : veil.sessions server.sessions = server.sessions :=
    Veil.sessions_eq_self rfl fun _ _ _ => rfl
  have same : veil.server server = server := by
    rw [Veil.server, sessions, Veil.lobby_eq_self rfl, List.append_nil]
  have acts := @act_server _ id linked veil rfl frames
  rw [same] at acts
  rw [acts]
  rfl

/-- Whoever has a frame served still has a session then. -/
theorem isSome_of_served {next : Server} {frame : Wire.Frame}
    (served : server.dispatch id frame = .ok next) : (next.sessions.get? id).isSome := by
  rcases exists_of_dispatch served with ⟨session, _, live, _⟩
  have serves := serves_frame (fun _ _ found => linked.indexed.filed found) id frame
  rw [served] at serves
  exact serves.own (by rw [live]; rfl)

/-- Frames are served one after the other, unless one of them fails. -/
theorem serveFrames_append (live : (server.sessions.get? id).isSome)
    (frames later : List Wire.Frame) :
    (server.serveFrames id frames).sessions.get? id = none ∧
        server.serveFrames id (frames ++ later) = server.serveFrames id frames ∨
      ((server.serveFrames id frames).sessions.get? id).isSome ∧
        server.serveFrames id (frames ++ later) =
          (server.serveFrames id frames).serveFrames id later := by
  induction frames generalizing server with
  | nil => exact .inr ⟨live, rfl⟩
  | cons frame frames ih =>
    rw [List.cons_append, serveFrames, serveFrames]
    cases served : server.dispatch id frame with
    | ok next => exact ih ((Step.serve served).linked linked) (isSome_of_served linked served)
    | error failure => exact .inl ⟨get?_terminate _ id _, rfl⟩

/-- What comes of frames that come in two calls. When something is wrong with the later frames and
they all come in one call, none of the earlier ones is served. -/
theorem act_append (live : (server.sessions.get? id).isSome)
    {first second whole : Except SessionError (List Wire.Frame)}
    (joined : whole = first.bind fun frames => second.map (frames ++ ·))
    (sound : whole.isOk ∨ ∀ frames, first = .ok frames → frames = []) :
    (server.act id first).sessions.get? id = none ∧ server.act id whole = server.act id first ∨
      ∃ frames, first = .ok frames ∧ ((server.act id first).sessions.get? id).isSome ∧
        server.act id whole = (server.act id first).act id second := by
  subst joined
  cases first with
  | error error => exact .inl ⟨get?_terminate _ id _, rfl⟩
  | ok frames =>
    cases second with
    | ok later =>
      rcases serveFrames_append linked live frames later with gone | both
      · exact .inl gone
      · exact .inr ⟨frames, rfl, both⟩
    | error error =>
      cases sound.resolve_left (by simp [Except.bind, Except.map, Except.isOk, Except.toBool])
        frames rfl
      exact .inr ⟨[], rfl, live, rfl⟩

end Linked

/-! ## One call and two -/

/-- A call that amounts to two calls, the second one after the first: the same has been done and said,
and of what one connection has sent the same is left over but for white space in front. -/
structure Amounts (id : ConnectionId) (first second joint : Server) : Prop where
  lobby : joint.lobby = second.lobby
  closings : joint.closings = second.closings
  nextPlayer : joint.nextPlayer = second.nextPlayer
  others : ∀ asked, asked ≠ id → joint.sessions.get? asked = second.sessions.get? asked
  own : (joint.sessions.get? id).map Session.skipped = (second.sessions.get? id).map Session.skipped
  mail : joint.mail = first.mail ++ second.mail

/-- If nothing comes of the second call, the first one has done everything. -/
theorem amounts_of_gone {rest : Bytes} (gone : server.sessions.get? id = none) :
    Amounts id server.handOver { server.handOver with said := [] }
      ((Veil.refilled id rest []).server server).handOver := by
  have sessions : (Veil.refilled id rest []).sessions server.sessions = server.sessions := by
    refine Veil.sessions_eq_self rfl ?_
    intro asked session found
    have other : asked ≠ id := by
      rintro rfl
      cases gone.symm.trans found
    simp [Veil.session, Veil.refilled, other, Sessions.bytesFor]
  have same : (Veil.refilled id rest []).server server = server := by
    rw [Veil.server, sessions, Veil.lobby_eq_self rfl]
    exact congrArg (fun said => { server with said }) (List.append_nil _)
  rw [same]
  exact ⟨rfl, rfl, rfl, fun _ _ => rfl, rfl, (List.append_nil _).symm⟩

/-- What comes of frames does not depend on what has been said before. -/
theorem act_begun (linked : server.Linked) (frames : Except SessionError (List Wire.Frame)) :
    server.act id frames = ({ earlier := server.said } : Veil).server
      (({ server with said := [] } : Server).act id frames) := by
  let begun : Server := { server with said := [] }
  let heard : Veil := { earlier := server.said }
  have sessions : heard.sessions begun.sessions = server.sessions :=
    Veil.sessions_eq_self rfl fun _ _ _ => rfl
  have same : heard.server begun = server := by
    rw [Veil.server, sessions, Veil.lobby_eq_self rfl]
    rfl
  have acts := @act_server begun id (Step.begin.linked linked) heard rfl frames
  rwa [same] at acts

/-- What is done in the second call might as well have been done in the first one. -/
theorem amounts_of_act (linked : server.Linked) {rest rest' : Bytes}
    (blanks : Wire.SameBehindBlanks rest rest')
    (frames : Except SessionError (List Wire.Frame)) :
    Amounts id server.handOver
      (((Veil.refilled id rest' server.mail).server { server with said := [] }).act id
        frames).handOver
      ((Veil.refilled id rest []).server (server.act id frames)).handOver := by
  let begun : Server := { server with said := [] }
  let heard : Veil := { earlier := server.said }
  let after : Server := begun.act id frames
  have second : ((Veil.refilled id rest' server.mail).server begun).act id frames =
      (Veil.refilled id rest' server.mail).server after :=
    act_server (Step.begin.linked linked) rfl frames
  have mail : ((Veil.refilled id rest []).server (heard.server after)).mail =
      server.mail ++ after.mail := by
    simp [Server.mail, Veil.server, Veil.refilled, heard]
  have mail' : ((Veil.refilled id rest' server.mail).server after).mail = after.mail := by
    simp [Server.mail, Veil.server, Veil.refilled]
  let sent (rest : Bytes) (asked : ConnectionId) (session : Session) : Session :=
    { session with
      incoming := if asked = id then rest else session.incoming
      outgoing := session.outgoing ++
        Sessions.bytesFor server.mail asked ++ Sessions.bytesFor after.mail asked }
  have found (asked : ConnectionId) :
      ((Veil.refilled id rest []).server (heard.server after)).handOver.sessions.get? asked =
        (after.sessions.get? asked).map (sent rest asked) := by
    refine (Sessions.get?_deliver _ _ asked).trans ?_
    rw [mail, Sessions.bytesFor_append]
    simp only [Veil.server, Veil.get?_sessions, Option.map_map]
    congr 1
    funext session
    simp [sent, Veil.session, Veil.refilled, heard, Sessions.bytesFor]
  have found' (asked : ConnectionId) :
      ((Veil.refilled id rest' server.mail).server after).handOver.sessions.get? asked =
        (after.sessions.get? asked).map (sent rest' asked) := by
    refine (Sessions.get?_deliver _ _ asked).trans ?_
    rw [mail']
    simp only [Veil.server, Veil.get?_sessions, Option.map_map]
    rfl
  rw [act_begun linked, second]
  refine ⟨?_, rfl, rfl, ?_, ?_, mail.trans (congrArg _ mail'.symm)⟩
  · change (Veil.refilled id rest []).lobby (heard.lobby after.lobby) =
      (Veil.refilled id rest' server.mail).lobby after.lobby
    rw [Veil.lobby_eq_self rfl, Veil.lobby_eq_self rfl, Veil.lobby_eq_self rfl]
  · intro asked other
    rw [found, found']
    simp only [sent, if_neg other]
  · rw [found, found', Option.map_map, Option.map_map]
    congr 1
    funext session
    have same : Wire.skipBlanks rest = Wire.skipBlanks rest' := blanks
    simp only [Function.comp_apply, Session.skipped, sent, if_pos, same]

/-! ## What is left over -/

theorem config_woken (server : Server) (id : ConnectionId) (changed : Session) (woke : Bool) :
    (server.woken id changed woke).sessions.config = server.sessions.config := by
  rw [sessions_woken]
  rfl

/-- What is left over of a session when it is read does not matter for the others. -/
theorem woken_refilled (found : server.sessions.get? id = some session) {changed : Session}
    (filed : changed.id = id) (rest : Bytes) (woke : Bool) :
    (Veil.refilled id rest []).server (server.woken id changed woke) =
      server.woken id { changed with incoming := rest } woke := by
  have sessions : (Veil.refilled id rest []).sessions (server.sessions.put changed) =
      server.sessions.put { changed with incoming := rest } := by
    refine Sessions.ext_get? rfl rfl rfl fun asked => ?_
    rw [Veil.get?_sessions, Sessions.get?_put_of_get? found filed,
      Sessions.get?_put_of_get? found (show ({ changed with incoming := rest } : Session).id = id from
        filed)]
    split
    · next same => simp [same, Veil.session, Veil.refilled, Sessions.bytesFor]
    · next other =>
      cases server.sessions.get? asked with
      | none => rfl
      | some session => simp [other, Veil.session, Veil.refilled, Sessions.bytesFor]
  have put : (Veil.refilled id rest []).server
      { server with sessions := server.sessions.put changed } =
      { server with sessions := server.sessions.put { changed with incoming := rest } } := by
    rw [Veil.server, sessions, Veil.lobby_eq_self rfl]
    exact congrArg (fun said => { server with
      sessions := server.sessions.put { changed with incoming := rest }
      said }) (List.append_nil server.said)
  unfold woken
  dsimp only
  rw [← put]
  split
  · exact (Veil.tellWake_server _ _ _).symm
  · rfl

/-- When a call is over and more bytes have come in, this is where the server is behind a veil. -/
theorem handOver_refilled (found : server.sessions.get? id = some session)
    (filed : session.id = id) (rest : Bytes) :
    ({ server.handOver with said := [] } : Server).woken id
        { session with
          incoming := rest
          outgoing := session.outgoing ++ Sessions.bytesFor server.mail id } false =
      (Veil.refilled id rest server.mail).server { server with said := [] } := by
  let changed : Session :=
    { session with
      incoming := rest
      outgoing := session.outgoing ++ Sessions.bytesFor server.mail id }
  have sessions : server.handOver.sessions.put changed =
      (Veil.refilled id rest server.mail).sessions server.sessions := by
    have found' : server.handOver.sessions.get? id = _ :=
      (Sessions.get?_deliver server.sessions server.mail id).trans (congrArg _ found)
    refine Sessions.ext_get? rfl rfl rfl fun asked => ?_
    rw [Sessions.get?_put_of_get? found' (show changed.id = id from filed), Veil.get?_sessions]
    split
    · next same => simp [same, found, changed, Veil.session, Veil.refilled]
    · next other =>
      refine (Sessions.get?_deliver server.sessions server.mail asked).trans ?_
      cases server.sessions.get? asked with
      | none => rfl
      | some session => simp [other, Veil.session, Veil.refilled]
  have lobby := (Veil.lobby_eq_self (show (Veil.refilled id rest server.mail).hidden = none from rfl)
    server.lobby).symm
  exact congrArg₂ (fun sessions lobby => { server with sessions, lobby, said := [] }) sessions lobby

/-- What comes in after a call, at the same time, is served as if it had come in that call. -/
theorem amounts_of_second (linked : server.Linked) (found : server.sessions.get? id = some session)
    {presence : Presence} {now : Nanos} (touched : session.presence = (presence.touch now).2)
    {arrivals : List Arrival} {bytes rest : Bytes} (brought : Arrival.brought? arrivals = some bytes)
    (fits : session.incoming.length + bytes.length ≤ server.sessions.config.backlogLimit)
    (blanks : Wire.SameBehindBlanks rest (session.grown bytes).takeFrames.2.incoming) :
    Amounts id server.handOver (server.handOver.receive id arrivals now)
      ((Veil.refilled id rest []).server
        (server.act id (session.grown bytes).takeFrames.1)).handOver := by
  let sent : Session :=
    { session with outgoing := session.outgoing ++ Sessions.bytesFor server.mail id }
  have found' : server.handOver.sessions.get? id = some sent :=
    (Sessions.get?_deliver _ _ id).trans (by rw [found]; rfl)
  have fits' : sent.incoming.length + bytes.length ≤
      server.handOver.sessions.config.backlogLimit := fits
  have hear : sent.hear bytes now = (false, sent.grown bytes) := Session.hear_of_touched touched
  have frames : (sent.grown bytes).takeFrames.1 = (session.grown bytes).takeFrames.1 := rfl
  have rest' : (sent.grown bytes).takeFrames.2 =
      { sent with incoming := (session.grown bytes).takeFrames.2.incoming } := rfl
  rw [receive_eq_act found' brought fits', hearing, hear]
  dsimp only
  rw [frames, rest', handOver_refilled found (linked.indexed.filed found)]
  exact amounts_of_act linked blanks _

section Pieces

variable (linked : server.Linked) (rested : server.Rested server.awake)
  (found : server.sessions.get? id = some session)

include linked rested found

theorem keeps_frames {changed : Session} (standing : changed.standing = session.standing)
    {woke : Bool} (known : changed.Known (woke || session.isAwake)) {frames : List Wire.Frame}
    (idle : frames = [] ∨ changed.isAwake = true) :
    (server.woken id changed woke).sessions.Keeps
      ((server.woken id changed woke).serveFrames id frames).sessions := by
  have filed := linked.indexed.filed found
  rcases idle with rfl | awake
  · exact .refl _
  · have linked' := linked_woken found filed standing linked woke
    have rested' := rested_woken found filed standing known rested
    rcases answered_frames linked' rested'
      (by rw [Function.update_self, known.awake, awake]) frames with ⟨_, answered, _⟩
    exact answered.keeps

/-- A call in which nothing comes in leaves no trace. -/
theorem receive_nothing {arrivals : List Arrival} (brought : Arrival.brought? arrivals = some [])
    (fits : session.incoming.length ≤ server.sessions.config.backlogLimit) (now : Nanos) :
    server.receive id arrivals now = { server with said := [] } := by
  have hear : session.hear [] now = (false, session) := if_pos rfl
  have read : session.takeFrames = (.ok [], session) := by
    rw [Session.takeFrames, (rested found).settled.read]
    rfl
  have put : server.sessions.put session = server.sessions := by
    refine Sessions.ext_get? rfl rfl rfl fun asked => ?_
    rw [Sessions.get?_put_of_get? found (linked.indexed.filed found)]
    split
    · next same => rw [same, found]
    · rfl
  rw [receive_eq_act found brought fits, hearing, hear]
  simp only [read, woken, put, act, serveFrames]
  exact congrArg (fun sessions => { server with sessions, said := [] }) server.sessions.deliver_nil

section Hearing

variable (bytes : Bytes) (now : Nanos)

omit rested

theorem linked_hearing : (server.hearing id session bytes now).Linked :=
  @linked_woken { server with said := [] } _ _ _ found (linked.indexed.filed found)
    (Session.standing_takeFrames_hear bytes now) (Step.begin.linked linked) _

theorem get?_hearing : (server.hearing id session bytes now).sessions.get? id =
    some (session.hear bytes now).2.takeFrames.2 :=
  (@get?_woken { server with said := [] } _ _ _ found (linked.indexed.filed found)
    (Session.standing_takeFrames_hear bytes now) _ id).trans (if_pos rfl)

/-- If more bytes come in with some, only what is left over is different before the frames are
served. -/
theorem hearing_append (something : bytes ≠ []) (later : Bytes) :
    server.hearing id session (bytes ++ later) now =
      (Veil.refilled id ((session.hear bytes now).2.grown later).takeFrames.2.incoming []).server
        (server.hearing id session bytes now) := by
  have filed : (session.hear bytes now).2.takeFrames.2.id = id :=
    (Session.standing_eq_iff.1 (Session.standing_takeFrames_hear bytes now)).1.trans
      (linked.indexed.filed found)
  rw [hearing, Session.hear_append something]
  exact (@woken_refilled { server with said := [] } _ _ found _ filed _ _).symm

end Hearing

/-- When the frames that have come in are served, what is left over of them stays as it is. -/
theorem left_of_frames {arrivals : List Arrival} {bytes : Bytes} {now : Nanos}
    {frames : List Wire.Frame} {left : Session} (brought : Arrival.brought? arrivals = some bytes)
    (fits : session.incoming.length + bytes.length ≤ server.sessions.config.backlogLimit)
    (read : (session.hear bytes now).2.takeFrames.1 = .ok frames)
    (stays : ((server.hearing id session bytes now).serveFrames id frames).sessions.get? id =
      some left) :
    (session.hear bytes now).2.takeFrames.2.presence = left.presence ∧
      (session.hear bytes now).2.takeFrames.2.incoming = left.incoming := by
  have received := @Session.receive_of_brought _ _ _ now _ brought fits
  rcases (rested found).settled.receive received (Prod.ext read rfl) with ⟨known, idle⟩
  have standing := @Session.standing_takeFrames_hear session bytes now
  have kept := @keeps_frames { server with said := [] } _ _ (Step.begin.linked linked) rested found _
    standing _ known _ idle
  rcases kept id left stays with ⟨earlier, found', same⟩
  cases (get?_hearing linked found bytes now).symm.trans found'
  exact same

/-- The second of two calls goes on where the frames of the first one have ended. -/
theorem amounts_of_left {first second : List Arrival} {bytes later rest : Bytes} {now : Nanos}
    {frames : List Wire.Frame} (something : bytes ≠ [])
    (brought : Arrival.brought? first = some bytes)
    (brought' : Arrival.brought? second = some later)
    (fits : session.incoming.length + bytes.length + later.length ≤
      server.sessions.config.backlogLimit)
    (read : (session.hear bytes now).2.takeFrames.1 = .ok frames)
    (live : (((server.hearing id session bytes now).serveFrames id frames).sessions.get? id).isSome)
    (blanks : Wire.SameBehindBlanks rest
      ((session.hear bytes now).2.takeFrames.2.grown later).takeFrames.2.incoming) :
    let served := (server.hearing id session bytes now).serveFrames id frames
    Amounts id served.handOver (served.handOver.receive id second now)
      ((Veil.refilled id rest []).server (served.act id
        ((session.hear bytes now).2.takeFrames.2.grown later).takeFrames.1)).handOver := by
  intro served
  have hearing := linked_hearing linked found bytes now
  have linked' : served.Linked := hearing.serveFrames id frames
  have config : served.sessions.config = server.sessions.config :=
    (@config_act _ id hearing (.ok frames)).trans (config_woken _ _ _ _)
  rcases Option.isSome_iff_exists.1 live with ⟨left, stays⟩
  rcases left_of_frames linked rested found brought (by omega) read stays with ⟨presence, incoming⟩
  have alike := @Session.takeFrames_of_incoming (left.grown later)
    ((session.hear bytes now).2.takeFrames.2.grown later) (congrArg (· ++ later) incoming.symm)
  have fits' : left.incoming.length + later.length ≤ served.sessions.config.backlogLimit := by
    have less := Wire.length_readFrames_le (session.hear bytes now).2.incoming
    have length : (session.hear bytes now).2.incoming.length =
        session.incoming.length + bytes.length := by
      rw [Session.incoming_hear, List.length_append]
    have same : left.incoming = (Wire.readFrames (session.hear bytes now).2.incoming).2 :=
      incoming.symm
    rw [config, same]
    omega
  rw [← alike.1]
  exact amounts_of_second linked' stays (presence.symm.trans (Session.presence_hear something))
    brought' fits' (alike.2 ▸ blanks)

/-- If there is nothing wrong with the frames of all that a connection sends, or none in what comes in
the first of two calls, both calls together do what a single one does. -/
theorem amounts_of_pieces {first second joint : List Arrival} {bytes later : Bytes}
    (brought : Arrival.brought? first = some bytes) (brought' : Arrival.brought? second = some later)
    (brought'' : Arrival.brought? joint = some (bytes ++ later))
    (fits : session.incoming.length + bytes.length + later.length ≤
      server.sessions.config.backlogLimit)
    (sound : (session.grown (bytes ++ later)).takeFrames.1.isOk ∨
      ∀ frames, (session.grown bytes).takeFrames.1 = .ok frames → frames = []) (now : Nanos) :
    Amounts id (server.receive id first now) ((server.receive id first now).receive id second now)
      (server.receive id joint now) := by
  have together : server.receive id joint now = _ :=
    receive_eq_act found brought'' (by rw [List.length_append]; omega)
  by_cases nothing : bytes = []
  · subst nothing
    have same : server.receive id joint now = server.receive id second now :=
      together.trans (receive_eq_act found brought' (by omega)).symm
    rw [receive_nothing linked rested found brought (by omega) now, same]
    exact ⟨rfl, rfl, rfl, fun _ _ => rfl, rfl, rfl⟩
  have linked' := linked_hearing linked found bytes now
  have live : ((server.hearing id session bytes now).sessions.get? id).isSome := by
    rw [get?_hearing linked found]
    rfl
  rw [Session.hear_append nothing, hearing_append linked found bytes now nothing,
    act_server linked' rfl] at together
  rw [together, receive_eq_act found brought (by omega)]
  rcases (session.hear bytes now).2.takeFrames_grown later with ⟨joined, blanks⟩
  have sound' : ((session.hear bytes now).2.grown later).takeFrames.1.isOk ∨
      ∀ frames, (session.hear bytes now).2.takeFrames.1 = .ok frames → frames = [] := by
    have incoming := @Session.incoming_hear session bytes now
    have some : (session.grown bytes).takeFrames.1 = (session.hear bytes now).2.takeFrames.1 :=
      (Session.takeFrames_of_incoming incoming.symm).1
    have all : (session.grown (bytes ++ later)).takeFrames.1 =
        ((session.hear bytes now).2.grown later).takeFrames.1 := by
      rw [← Session.grown_grown]
      exact (Session.takeFrames_of_incoming (congrArg (· ++ later) incoming.symm)).1
    rwa [← some, ← all]
  rcases act_append linked' live joined sound' with ⟨gone, same⟩ | ⟨frames, read, live', same⟩
  · have gone' : ((server.hearing id session bytes now).act id
        (session.hear bytes now).2.takeFrames.1).handOver.sessions.get? id = none :=
      (Sessions.get?_deliver _ _ id).trans (by rw [gone]; rfl)
    rw [same, (calls_of_gone gone' second now .everything).1]
    exact amounts_of_gone gone
  · rw [read] at live' same ⊢
    rw [same]
    exact amounts_of_left linked rested found nothing brought brought' fits read live'
      (blanks (by rw [read]; rfl))

end Pieces

/-! ## Runs -/

/-- What a client sends may come in one call or, at the same time, in two. If there is nothing wrong
with the frames of all of it, or if there are none in what comes first, the same is done and said in
both cases, and the same is left over but for white space in front. But if something is wrong with the
frames that come in one call, the session ends and none of them is served. -/
theorem pieces_served_alike (config : ServerConfig) (deals : List Deal) (calls : List Call)
    {id : ConnectionId} {session : Session}
    (found : ((start config.validated deals).run calls).sessions.get? id = some session)
    {first second joint : List Arrival} {bytes later : Bytes}
    (brought : Arrival.brought? first = some bytes) (brought' : Arrival.brought? second = some later)
    (brought'' : Arrival.brought? joint = some (bytes ++ later))
    (fits : session.incoming.length + bytes.length + later.length ≤
      ((start config.validated deals).run calls).sessions.config.backlogLimit) (now : Nanos) :
    let server := (start config.validated deals).run calls
    ((session.grown (bytes ++ later)).takeFrames.1.isOk ∨
        (∀ frames, (session.grown bytes).takeFrames.1 = .ok frames → frames = []) →
      Amounts id (server.receive id first now) ((server.receive id first now).receive id second now)
        (server.receive id joint now)) ∧
    ∀ error, (session.grown (bytes ++ later)).takeFrames.1 = .error error →
      ∃ changed woke, changed.standing = session.standing ∧ server.receive id joint now =
        ((({ server with said := [] } : Server).woken id changed woke).terminate id
          (.error (.session error))).handOver := by
  have coherent := (Record.coherent_start config deals).run calls
  have same : ((Record.start config deals).run calls).server =
      (start config.validated deals).run calls := Record.server_run _ _
  have linked := same ▸ coherent.linked
  have rested := same ▸ coherent.rested
  generalize (start config.validated deals).run calls = server at found fits linked rested
  dsimp only
  refine ⟨fun sound =>
    amounts_of_pieces linked rested found brought brought' brought'' fits sound now, ?_⟩
  intro error wrong
  have fits' : session.incoming.length + (bytes ++ later).length ≤
      server.sessions.config.backlogLimit := by
    rw [List.length_append]
    omega
  have received := @Session.receive_of_brought _ _ _ now _ brought'' fits'
  have standing := Session.standing_receive session server.sessions.config joint now
  rw [received] at standing
  have read : (session.hear (bytes ++ later) now).2.takeFrames.1 = .error error := by
    rw [← wrong, Session.takeFrames, Session.takeFrames, Session.hear]
    split
    · next nothing => simp [nothing, Session.grown]
    · rfl
  refine ⟨(session.hear (bytes ++ later) now).2.takeFrames.2, (session.hear (bytes ++ later) now).1,
    standing, ?_⟩
  rw [receive_eq_act found brought'' fits', read]
  rfl

/-- Bob's wish to join Ann comes in two pieces. -/
theorem pieces_served_alike_of_join :
    let server := (start ServerConfig.standard.validated []).run (duel.take 3)
    let send (text : String) : List Arrival := (Arrival.ofBytes? (Wire.bytesOf text)).toList
    Amounts 2 (server.receive 2 (send "PRSI NAME Bob |PRSI JO") 4)
      ((server.receive 2 (send "PRSI NAME Bob |PRSI JO") 4).receive 2 (send "IN_ROOM 0 |\n") 4)
      (server.receive 2 (send "PRSI NAME Bob |PRSI JOIN_ROOM 0 |\n") 4) := by
  intro server send
  have found : server.sessions.get? 2 = some (.fresh 2 0) := by decide +kernel
  refine (@pieces_served_alike .standard [] (duel.take 3) 2 _ found _ _ _
    (Wire.bytesOf "PRSI NAME Bob |PRSI JO") (Wire.bytesOf "IN_ROOM 0 |\n") (by decide +kernel)
    (by decide +kernel) (by decide +kernel) (by decide +kernel) 4).1 (.inl ?_)
  decide +kernel

/-- A frame that comes in one call with something wrong behind it is not served. Ann waits for
somebody to play with; if Bob's wish to join her and what is wrong come in two calls, her game starts
and ends before he is gone, and otherwise she hears nothing of him. -/
theorem not_served_alike_before_problem :
    let server := (start ServerConfig.standard.validated []).run
      (duel.take 3 ++ [.receive 2 [.bytes 0x50 (Wire.bytesOf "RSI NAME Bob |")] 2])
    let send (text : String) : List Arrival := (Arrival.ofBytes? (Wire.bytesOf text)).toList
    let split := (server.receive 2 (send "PRSI JOIN_ROOM 0 |") 4).receive 2 (send "BOGUS BYTES") 4
    let joint := server.receive 2 (send "PRSI JOIN_ROOM 0 |BOGUS BYTES") 4
    (server.sessions.get? 2).isSome ∧
      (split.lobby.room? 0).map Room.state = some .finished ∧
      (joint.lobby.room? 0).map Room.state = some .waiting ∧
      joint.sessions.get? 1 = (server.sessions.get? 1) ∧
      split.sessions.get? 1 ≠ server.sessions.get? 1 := by
  decide +kernel

end Server

end CardTable
