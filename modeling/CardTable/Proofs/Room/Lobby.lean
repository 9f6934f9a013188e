import CardTable.Proofs.Room.Stages
import CardTable.Room.Lobby

/-!
# Rooms of a lobby

Each operation of a lobby, said by what is filed under each number afterwards. The number of a new
room is one that no room has.
-/

namespace CardTable.Lobby

variable {lobby : Lobby} {id : RoomId} {player : PlayerId} {room : Room}

theorem room?_put (lobby : Lobby) (room : Room) (asked : RoomId) :
    (lobby.put room).room? asked =
      if asked = room.id then (lobby.room? asked).map fun _ => room else lobby.room? asked :=
  Directory.get?_modify _ _ _ _

theorem room?_put_of_room? {changed : Room} (found : lobby.room? id = some room)
    (same : changed.id = id) (asked : RoomId) :
    (lobby.put changed).room? asked = if asked = id then some changed else lobby.room? asked := by
  rw [room?_put, same]
  split
  · next here => rw [here, found, Option.map_some]
  · rfl

theorem room?_remove (lobby : Lobby) (id asked : RoomId) :
    (lobby.remove id).room? asked = if asked = id then none else lobby.room? asked :=
  Directory.get?_erase _ _ _

theorem find_of_room? (found : lobby.room? id = some room) : lobby.find id = .ok room := by
  rw [find, found]

/-! ## A new room -/

theorem le_firstGap (candidate : Nat) (keys : List Nat) : candidate ≤ firstGap candidate keys := by
  fun_induction firstGap candidate keys with
  | case1 => exact le_rfl
  | case2 candidate rest ih => omega
  | case3 => exact le_rfl

theorem firstGap_notMem {keys : List Nat} {candidate : Nat} (ordered : keys.Pairwise (· < ·))
    (above : ∀ key ∈ keys, candidate ≤ key) : firstGap candidate keys ∉ keys := by
  fun_induction firstGap candidate keys with
  | case1 => exact List.not_mem_nil
  | case2 candidate rest ih =>
    rcases List.pairwise_cons.1 ordered with ⟨first, ordered⟩
    have beyond := le_firstGap (candidate + 1) rest
    have missing := ih ordered fun later member => first later member
    rw [List.mem_cons, not_or]
    exact ⟨by omega, missing⟩
  | case3 candidate number rest gap =>
    rcases List.pairwise_cons.1 ordered with ⟨first, _⟩
    have least := above number List.mem_cons_self
    rw [List.mem_cons, not_or]
    refine ⟨Ne.symm gap, fun member => ?_⟩
    have behind := first candidate member
    omega

theorem room?_freeId (lobby : Lobby) : lobby.room? lobby.freeId = none := by
  have ordered : lobby.rooms.keys.Pairwise (· < ·) := List.pairwise_map.2 lobby.rooms.ordered
  have unused := firstGap_notMem ordered fun _ _ => Nat.zero_le _
  cases found : lobby.room? lobby.freeId with
  | none => rfl
  | some room =>
    have filed := Directory.mem_entries_iff.2 found
    exact (unused (List.mem_map_of_mem filed)).elim

theorem create_eq_ok {created : Lobby} (opened : lobby.create = .ok (id, created)) :
    lobby.room? id = none ∧ created.config = lobby.config ∧ created.deals = lobby.deals ∧
      ∀ asked, created.room? asked =
        if asked = id then some (.vacant id lobby.config) else lobby.room? asked := by
  unfold create at opened
  split at opened
  · cases opened
  · cases opened
    exact ⟨room?_freeId lobby, rfl, rfl, fun asked => Directory.get?_insert _ _ _ _⟩

/-! ## Players and games -/

theorem join_eq_ok {joined : Lobby} (taken : lobby.join id player = .ok joined) :
    ∃ room seated, lobby.room? id = some room ∧ room.join player = .ok seated ∧
      joined = lobby.put seated := by
  cases found : lobby.room? id with
  | none => simp [join, find, found, bind, Except.bind] at taken
  | some room =>
    cases seat : room.join player with
    | error error => simp [join, find, found, seat, bind, Except.bind] at taken
    | ok seated =>
      simp only [join, find, found, seat, bind, Except.bind, pure, Except.pure] at taken
      cases taken
      exact ⟨room, seated, rfl, seat, rfl⟩

theorem join_of_room? {seated : Room} (found : lobby.room? id = some room)
    (seat : room.join player = .ok seated) : lobby.join id player = .ok (lobby.put seated) := by
  rw [join, find_of_room? found]
  simp only [bind, Except.bind, seat]
  rfl

theorem start_of_room? {started : Room} (found : lobby.room? id = some room)
    (dealt : room.start (lobby.deals.headD default) = .ok started) :
    lobby.start id = .ok { lobby.put started with deals := lobby.deals.tail } := by
  rw [start, find_of_room? found]
  simp only [bind, Except.bind, dealt]
  rfl

theorem leave_of_room? {departure : Departure} {rest : Room} (found : lobby.room? id = some room)
    (left : room.leave player = .ok (departure, rest)) :
    lobby.leave id player = .ok (departure, lobby.put rest) := by
  rw [leave, find_of_room? found]
  simp only [bind, Except.bind, left]
  rfl

end CardTable.Lobby
