import CardTable.Proofs.Room.Lobby
import CardTable.Server.Calls

/-!
# What is said

Whatever the server says goes to the head of its record and changes nothing else. Each way of saying
something is written here as mail: to some players, to a room, about the turn, or about a sleeper
who is back.
-/

namespace CardTable.Server

variable {server : Server}

/-- The server once some mail has been said. -/
def saying (server : Server) (mail : List Delivery) : Server :=
  { server with said := mail.reverse ++ server.said }

section Saying

variable (server : Server) (mail : List Delivery)

@[simp]
theorem sessions_saying : (server.saying mail).sessions = server.sessions := rfl

@[simp]
theorem lobby_saying : (server.saying mail).lobby = server.lobby := rfl

@[simp]
theorem saying_nil : server.saying [] = server := rfl

@[simp]
theorem saying_saying (later : List Delivery) :
    (server.saying mail).saying later = server.saying (mail ++ later) := by
  simp [saying]

end Saying

/-! ## Mail -/

/-- What is said to some players, each of whom may hear something else. -/
def mailTo (server : Server) (players : List PlayerId) (notice : PlayerId → Notice) :
    List Delivery :=
  players.filterMap fun player =>
    (server.sessions.findPlayer? player).map fun connection => { connection, notice := notice player }

/-- What is said to everybody in a room except one. -/
def roomMail (server : Server) (room : RoomId) (notice : Notice) (except : Option PlayerId) :
    List Delivery :=
  server.mailTo (server.audience room except) fun _ => notice

/-- What a room hears about the turn. -/
def turnMail (server : Server) (room : RoomId) : List Delivery :=
  match server.turnView? room with
  | some turn => server.roomMail room (.turn turn) none
  | none => []

/-- What a room hears when a connection wakes up. -/
def wakeMail (server : Server) (id : ConnectionId) : List Delivery :=
  match server.seated? id with
  | some (identity, room) => server.roomMail room (.awake identity.nickname) (some identity.player)
  | none => []

theorem tell_eq_saying (server : Server) (connection : ConnectionId) (notice : Notice) :
    server.tell connection notice = server.saying [{ connection, notice }] := rfl

theorem tellPlayer_eq_saying (server : Server) (player : PlayerId) (notice : Notice) :
    server.tellPlayer player notice = server.saying (server.mailTo [player] fun _ => notice) := by
  simp only [tellPlayer, mailTo, List.filterMap_cons]
  cases server.sessions.findPlayer? player with
  | none => rfl
  | some id => rfl

theorem tellPlayers_eq_saying (server : Server) (players : List PlayerId)
    (notice : PlayerId → Notice) :
    server.tellPlayers players notice = server.saying (server.mailTo players notice) := by
  simp only [tellPlayers]
  induction players generalizing server with
  | nil => rfl
  | cons player players ih =>
    have together : server.mailTo (player :: players) notice =
        server.mailTo [player] notice ++ server.mailTo players notice :=
      @List.filterMap_append _ _ [player] players _
    rw [List.foldl_cons, ih, tellPlayer_eq_saying, saying_saying, together]
    rfl

theorem tellRoom_eq_saying (server : Server) (room : RoomId) (notice : Notice)
    (except : Option PlayerId) :
    server.tellRoom room notice except = server.saying (server.roomMail room notice except) :=
  tellPlayers_eq_saying _ _ _

theorem tellTurn_eq_saying (server : Server) (room : RoomId) :
    server.tellTurn room = server.saying (server.turnMail room) := by
  cases view : server.turnView? room with
  | none => simp only [tellTurn, turnMail, view, saying_nil]
  | some turn => simp only [tellTurn, turnMail, view, tellRoom_eq_saying]

theorem tellWake_eq_saying (server : Server) (id : ConnectionId) :
    server.tellWake id = server.saying (server.wakeMail id) := by
  cases seat : server.seated? id with
  | none => simp only [tellWake, wakeMail, seat, saying_nil]
  | some seat => simp only [tellWake, wakeMail, seat, tellRoom_eq_saying]

/-! ## The end of a game -/

/-- What a room hears when its game ends. -/
def closingMail (server : Server) (number : RoomId) (room : Room) (ending : Ending) :
    List Delivery :=
  match room.game? with
  | some game =>
    server.mailTo (room.players.filter fun player => (game.hand? player).any (· ≠ []))
        (fun _ => ending.verdict) ++
      server.roomMail number (.leaderboard (game.standings.filterMap server.nicknameOf?)) none
  | none => []

/-- When a game ends its room is concluded, and says so. -/
theorem finishGame_eq_saying {number : RoomId} {room : Room}
    (found : server.lobby.room? number = some room) (mail : List Delivery) (ending : Ending) :
    (server.saying mail).finishGame number ending =
      ({ server with lobby := server.lobby.put room.conclude.2 } : Server).saying (mail ++
        ({ server with lobby := server.lobby.put room.conclude.2 } : Server).closingMail number
          room.conclude.2 ending) := by
  simp only [finishGame, lobby_saying, found]
  split
  · next none =>
    rw [closingMail, none, List.append_nil]
    rfl
  · next game on =>
    rw [closingMail, on, tellRoom_eq_saying, tellPlayers_eq_saying, saying_saying]
    exact saying_saying { server with lobby := server.lobby.put room.conclude.2 } mail _

end CardTable.Server
