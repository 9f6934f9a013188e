/-!
# Room states

A room waits for its players, plays one game, and is then finished. It never goes back.
-/

namespace CardTable

/-- Where a room stands. -/
inductive RoomState
  | waiting
  | playing
  | finished
  deriving DecidableEq, Repr, Inhabited

namespace RoomState

/-- The word for the state in a message. -/
def text : RoomState → String
  | waiting => "WAITING"
  | playing => "PLAYING"
  | finished => "FINISHED"

/-- The only state that may come next. -/
def next? : RoomState → Option RoomState
  | waiting => some playing
  | playing => some finished
  | finished => none

def IsJoinable (state : RoomState) : Prop := state = waiting

def IsActive (state : RoomState) : Prop := state = playing

/-- One state may follow another. -/
def MayBecome (state target : RoomState) : Prop := state.next? = some target

instance (state : RoomState) : Decidable state.IsJoinable := inferInstanceAs (Decidable (_ = _))

instance (state : RoomState) : Decidable state.IsActive := inferInstanceAs (Decidable (_ = _))

instance (state target : RoomState) : Decidable (state.MayBecome target) :=
  inferInstanceAs (Decidable (_ = _))

end RoomState

end CardTable
