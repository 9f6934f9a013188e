import CardTable.Proofs.Room.Lobby
import CardTable.Proofs.Room.Run
import Mathlib.Order.Bounds.Defs

/-!
# The numbers of rooms

A new room gets the least number that no room has, whatever has been done with the lobby and in its
rooms before. A number therefore stays below the limit on rooms, and is not given again before its
room has been removed.
-/

namespace CardTable

/-! ## Rooms keep their numbers -/

namespace Room

variable {room next : Room}

theorem id_of_leave {player : PlayerId} {departure : Departure}
    (left : room.leave player = .ok (departure, next)) : next.id = room.id := by
  unfold leave at left
  split at left
  · cases left
  · split at left
    · cases left
    · next stage without =>
      let rest : Room := { room with players := room.players.erase player, stage }
      dsimp only at left
      split at left
      · split at left <;> cases left <;> rfl
      · have same := id_conclude rest
        split at left <;> cases left
        · next concluded => rwa [concluded] at same
        · next concluded => rwa [concluded] at same

theorem id_of_attempt {deed : Deed} (accepted : room.attempt deed = .ok next) :
    next.id = room.id := by
  cases deed with
  | join player =>
    rcases join_eq_ok accepted with ⟨_, _, _, rfl⟩
    rfl
  | start chance =>
    rcases start_eq_ok accepted with ⟨_, _, _, rfl⟩
    rfl
  | leave player =>
    rcases Game.map_snd_eq_ok accepted with ⟨departure, left⟩
    exact id_of_leave left
  | conclude =>
    cases accepted
    exact id_conclude room
  | act move action =>
    rcases act_eq_ok accepted with ⟨_, rfl⟩ | ⟨_, _, _, _, rfl⟩ <;> rfl

theorem id_after (room : Room) (deed : Deed) : (room.after deed).id = room.id := by
  unfold after
  split
  · next accepted => exact id_of_attempt accepted
  · rfl

end Room

namespace Directory

variable {κ α : Type} [LT κ] [DecidableEq κ] {directory : Directory κ α} {key : κ}

theorem size_erase_le (directory : Directory κ α) (key : κ) :
    (directory.erase key).size ≤ directory.size :=
  List.length_filter_le _ _

variable [LE κ] [Std.LawfulOrderLT κ]

/-- A new key makes the directory longer by one. -/
theorem size_insert [DecidableLT κ] [Std.IsLinearOrder κ] (missing : directory.get? key = none)
    (value : α) :
    (directory.insert key value).size = directory.size + 1 := by
  have split : (directory.entries.filter fun entry => key < entry.1) =
      directory.entries.filter fun entry => !decide (entry.1 < key) := by
    refine List.filter_congr fun entry filed => ?_
    have apart : entry.1 ≠ key := by
      rintro rfl
      cases (mem_entries_iff.1 filed).symm.trans missing
    have one_way : ¬(entry.1 < key ∧ key < entry.1) :=
      fun both => Std.lt_irrefl (Std.lt_trans both.1 both.2)
    rcases Std.lt_trichotomy entry.1 key with below | same | above
    · simp_all
    · exact (apart same).elim
    · simp_all
  have whole := List.length_eq_length_filter_add (l := directory.entries) fun entry =>
    decide (entry.1 < key)
  simp only [size, insert, List.length_append, List.length_cons, split]
  omega

end Directory

namespace Lobby

variable {lobby : Lobby} {id : RoomId} {room : Room} {config : RoomConfig}

/-! ## The least free number -/

theorem firstGap_le (candidate : Nat) (keys : List Nat) :
    firstGap candidate keys ≤ candidate + keys.length := by
  fun_induction firstGap candidate keys with
  | case1 => exact Nat.le_refl _
  | case2 candidate rest ih =>
    rw [List.length_cons]
    omega
  | case3 => exact Nat.le_add_right _ _

/-- Every number before the gap comes in the list. -/
theorem mem_of_lt_firstGap {keys : List Nat} {candidate number : Nat}
    (from_candidate : candidate ≤ number) (before : number < firstGap candidate keys) : number ∈ keys := by
  fun_induction firstGap candidate keys with
  | case1 => omega
  | case2 candidate rest ih =>
    by_cases first : number = candidate
    · exact first ▸ List.mem_cons_self
    · exact List.mem_cons_of_mem _ (ih (by omega) before)
  | case3 => omega

theorem isLeast_freeId (lobby : Lobby) : IsLeast {id | lobby.room? id = none} lobby.freeId := by
  refine ⟨room?_freeId lobby, fun id missing => ?_⟩
  by_contra before
  have used := Directory.mem_keys_iff.1 (mem_of_lt_firstGap (Nat.zero_le id) (not_le.1 before))
  rw [Option.isSome_iff_ne_none] at used
  exact used missing

theorem freeId_le (lobby : Lobby) : lobby.freeId ≤ lobby.rooms.size := by
  have gap := firstGap_le 0 lobby.rooms.keys
  rwa [Nat.zero_add, Directory.keys, List.length_map] at gap

/-! ## Deeds -/

/-- Something to do with a lobby or in one of its rooms. -/
inductive Deed
  | create
  | remove (id : RoomId)
  | within (id : RoomId) (deed : Room.Deed)

/-- The lobby after a deed. A room that cannot be opened changes nothing, and neither does what is
tried in a room that does not exist. -/
def after (lobby : Lobby) : Deed → Lobby
  | .create =>
    match lobby.create with
    | .ok (_, created) => created
    | .error _ => lobby
  | .remove id => lobby.remove id
  | .within id deed =>
    match lobby.room? id with
    | some room => lobby.put (room.after deed)
    | none => lobby

def run (lobby : Lobby) (deeds : List Deed) : Lobby :=
  deeds.foldl after lobby

/-- The number that a deed gives to a new room, if it opens one. -/
def opens? (lobby : Lobby) : Deed → Option RoomId
  | .create =>
    match lobby.create with
    | .ok (id, _) => some id
    | .error _ => none
  | _ => none

/-- The numbers of all rooms that are opened by several deeds, in order. -/
def issued (lobby : Lobby) : List Deed → List RoomId
  | [] => []
  | deed :: deeds => (lobby.opens? deed).toList ++ (lobby.after deed).issued deeds

theorem create_of_full (full : lobby.limit ≤ lobby.rooms.size) :
    lobby.create = .error (.lobbyFull lobby.limit) :=
  if_pos full

theorem create_of_free (free : ¬lobby.limit ≤ lobby.rooms.size) :
    lobby.create = .ok (lobby.freeId, { lobby with
      rooms := lobby.rooms.insert lobby.freeId (.vacant lobby.freeId lobby.config) }) :=
  if_neg free

/-! ## What every deed keeps -/

/-- A lobby at any time: it has no more rooms than it may have, and each is filed under its own
number, which is below the limit. -/
structure Numbered (limit : Nat) (config : RoomConfig) (lobby : Lobby) : Prop where
  limit_eq : lobby.limit = limit
  config_eq : lobby.config = config
  few : lobby.rooms.size ≤ limit
  filed : ∀ {id room}, lobby.room? id = some room → room.id = id
  below : ∀ {id room}, lobby.room? id = some room → id < limit

variable {limit : Nat}

theorem numbered_vacant (limit : Nat) (config : RoomConfig) (deals : List Deal) :
    (vacant limit config deals).Numbered limit config where
  limit_eq := rfl
  config_eq := rfl
  few := Nat.zero_le _
  filed found := by cases found
  below found := by cases found

namespace Numbered

variable (numbered : lobby.Numbered limit config)

include numbered

/-- While there are fewer rooms than allowed, the next room gets a number below the limit. -/
theorem freeId_lt (free : ¬lobby.limit ≤ lobby.rooms.size) : lobby.freeId < limit := by
  rw [numbered.limit_eq, not_le] at free
  exact (freeId_le lobby).trans_lt free

theorem create (free : ¬lobby.limit ≤ lobby.rooms.size) :
    ({ lobby with rooms := lobby.rooms.insert lobby.freeId (.vacant lobby.freeId lobby.config) } :
      Lobby).Numbered limit config := by
  have rooms (asked : RoomId) :
      (lobby.rooms.insert lobby.freeId (.vacant lobby.freeId lobby.config)).get? asked =
        if asked = lobby.freeId then some (.vacant lobby.freeId lobby.config)
        else lobby.room? asked := Directory.get?_insert _ _ _ _
  have size := Directory.size_insert (room?_freeId lobby) (.vacant lobby.freeId lobby.config)
  refine ⟨numbered.limit_eq, numbered.config_eq, ?_, ?_, ?_⟩
  · rw [numbered.limit_eq, not_le] at free
    exact size.trans_le free
  · intro id room found
    rw [room?, rooms] at found
    split at found
    · next new =>
      cases found
      exact new.symm
    · exact numbered.filed found
  · intro id room found
    rw [room?, rooms] at found
    split at found
    · next new => exact new ▸ numbered.freeId_lt free
    · exact numbered.below found

theorem remove (id : RoomId) : (lobby.remove id).Numbered limit config := by
  have still {asked : RoomId} {room : Room} (found : (lobby.remove id).room? asked = some room) :
      lobby.room? asked = some room := by
    rw [room?_remove] at found
    split at found
    · cases found
    · exact found
  exact ⟨numbered.limit_eq, numbered.config_eq,
    (Directory.size_erase_le lobby.rooms id).trans numbered.few,
    fun found => numbered.filed (still found), fun found => numbered.below (still found)⟩

theorem put {changed : Room} (found : lobby.room? id = some room) (same : changed.id = room.id) :
    (lobby.put changed).Numbered limit config := by
  have own := same.trans (numbered.filed found)
  have rooms := room?_put_of_room? found own
  refine ⟨numbered.limit_eq, numbered.config_eq, ?_, ?_, ?_⟩
  · exact (List.length_map _).trans_le numbered.few
  · intro asked later found'
    rw [rooms] at found'
    split at found'
    · next here =>
      cases found'
      exact own.trans here.symm
    · exact numbered.filed found'
  · intro asked later found'
    rw [rooms] at found'
    split at found'
    · next here => exact here ▸ numbered.below found
    · exact numbered.below found'

theorem after (deed : Deed) : (lobby.after deed).Numbered limit config := by
  cases deed with
  | create =>
    by_cases full : lobby.limit ≤ lobby.rooms.size
    · simp only [Lobby.after, create_of_full full]
      exact numbered
    · simp only [Lobby.after, create_of_free full]
      exact numbered.create full
  | remove id => exact numbered.remove id
  | within id deed =>
    cases found : lobby.room? id with
    | none =>
      simp only [Lobby.after, found]
      exact numbered
    | some room =>
      simp only [Lobby.after, found]
      exact numbered.put found (room.id_after deed)

theorem run (deeds : List Deed) : (lobby.run deeds).Numbered limit config := by
  induction deeds generalizing lobby with
  | nil => exact numbered
  | cons deed deeds ih => exact ih (numbered.after deed)

theorem lt_of_opens? {deed : Deed} (opens : lobby.opens? deed = some id) : id < limit := by
  cases deed with
  | create =>
    by_cases full : lobby.limit ≤ lobby.rooms.size
    · simp [opens?, create_of_full full] at opens
    · simp only [opens?, create_of_free full, Option.some_inj] at opens
      exact opens ▸ numbered.freeId_lt full
  | remove | within => cases opens

theorem lt_of_issued {deeds : List Deed} (issued : id ∈ lobby.issued deeds) : id < limit := by
  induction deeds generalizing lobby with
  | nil => cases issued
  | cons deed deeds ih =>
    rcases List.mem_append.1 issued with now | later
    · exact numbered.lt_of_opens? (Option.mem_toList.1 now)
    · exact ih (numbered.after deed) later

end Numbered

/-! ## No number twice -/

theorem room?_of_opens? {deed : Deed} (opens : lobby.opens? deed = some id) :
    lobby.room? id = none := by
  cases deed with
  | create =>
    by_cases full : lobby.limit ≤ lobby.rooms.size
    · simp [opens?, create_of_full full] at opens
    · simp only [opens?, create_of_free full, Option.some_inj] at opens
      exact opens ▸ room?_freeId lobby
  | remove | within => cases opens

/-- A room stays until it is removed. -/
theorem isSome_after {deed : Deed} (filed : ∀ {id room}, lobby.room? id = some room → room.id = id)
    (live : (lobby.room? id).isSome) (kept : deed ≠ .remove id) :
    ((lobby.after deed).room? id).isSome := by
  cases deed with
  | create =>
    cases opened : lobby.create with
    | error error => simpa only [after, opened] using live
    | ok result =>
      rcases create_eq_ok opened with ⟨_, _, _, rooms⟩
      simp only [after, opened, rooms]
      split
      · rfl
      · exact live
  | remove other =>
    have apart : id ≠ other := fun same => kept (same ▸ rfl)
    simpa only [after, room?_remove, if_neg apart] using live
  | within other deed =>
    cases found : lobby.room? other with
    | none => simpa only [after, found] using live
    | some room =>
      have own := (room.id_after deed).trans (filed found)
      simp only [after, found, room?_put_of_room? found own]
      split
      · rfl
      · exact live

/-- The number of a room is not given again unless the room is removed. -/
theorem Numbered.not_mem_issued {deeds : List Deed} (numbered : lobby.Numbered limit config)
    (live : (lobby.room? id).isSome) (kept : .remove id ∉ deeds) : id ∉ lobby.issued deeds := by
  induction deeds generalizing lobby with
  | nil => exact List.not_mem_nil
  | cons deed deeds ih =>
    rw [List.mem_cons, not_or] at kept
    refine fun issued => ?_
    rcases List.mem_append.1 issued with now | later
    · rw [room?_of_opens? (Option.mem_toList.1 now)] at live
      cases live
    · have still := isSome_after numbered.filed live (Ne.symm kept.1)
      exact ih (numbered.after deed) still kept.2 later

/-! ## The numbers of a lobby -/

/-- A lobby that numbers its rooms as it should. -/
structure NumbersRooms (limit : Nat) (config : RoomConfig) (lobby : Lobby) : Prop where
  few : lobby.rooms.size ≤ limit
  below : ∀ id room, lobby.room? id = some room → id < limit
  /-- A room is refused just when there are as many as are allowed, and then nothing happens. -/
  refused_iff : ∀ error, lobby.create = .error error ↔
    lobby.rooms.size = limit ∧ error = .lobbyFull limit
  refused : lobby.rooms.size = limit → lobby.after .create = lobby
  /-- Otherwise an empty room is opened under the least number that no room has, and nothing else
  happens. -/
  opened : lobby.rooms.size ≠ limit → ∃ id created, lobby.create = .ok (id, created) ∧
    lobby.after .create = created ∧ IsLeast {id | lobby.room? id = none} id ∧
    created.room? id = some (.vacant id config) ∧
    (∀ other, other ≠ id → created.room? other = lobby.room? other) ∧
    created.rooms.size = lobby.rooms.size + 1 ∧ created.deals = lobby.deals
  /-- Whatever is done then, the number of a room is not given again before the room is removed. -/
  reserved : ∀ id deeds, (lobby.room? id).isSome → .remove id ∉ deeds → id ∉ lobby.issued deeds
  /-- The list of rooms has them all, each once, in the order of their numbers. -/
  listed : ∀ summary, summary ∈ lobby.summaries ↔
    ∃ room, lobby.room? summary.id = some room ∧ summary = room.summary
  ordered : lobby.summaries.Pairwise fun summary later => summary.id < later.id

namespace Numbered

variable (numbered : lobby.Numbered limit config)

include numbered

theorem mem_summaries_iff (summary : RoomSummary) : summary ∈ lobby.summaries ↔
    ∃ room, lobby.room? summary.id = some room ∧ summary = room.summary := by
  constructor
  · intro listed
    rcases List.mem_map.1 listed with ⟨_, value, rfl⟩
    rcases List.mem_map.1 value with ⟨⟨id, room⟩, filed, rfl⟩
    have found : lobby.room? id = some room := Directory.mem_entries_iff.1 filed
    exact ⟨room, (numbered.filed found).symm ▸ found, rfl⟩
  · rintro ⟨room, found, rfl⟩
    exact List.mem_map_of_mem (List.mem_map_of_mem (Directory.mem_entries_iff.2 found))

theorem pairwise_summaries :
    lobby.summaries.Pairwise fun summary later => summary.id < later.id := by
  have own : ∀ entry ∈ lobby.rooms.entries, entry.2.id = entry.1 :=
    fun entry filed => numbered.filed (Directory.mem_entries_iff.1 filed)
  rw [summaries, Directory.values, List.map_map, List.pairwise_map]
  refine lobby.rooms.ordered.imp_of_mem fun filed filed' below => ?_
  change Room.id _ < Room.id _
  rwa [own _ filed, own _ filed']

theorem numbersRooms : lobby.NumbersRooms limit config := by
  have full_iff : lobby.limit ≤ lobby.rooms.size ↔ lobby.rooms.size = limit := by
    rw [numbered.limit_eq]
    exact ⟨fun full => le_antisymm numbered.few full, ge_of_eq⟩
  refine {
    few := numbered.few
    below := fun _ _ => numbered.below
    refused_iff := ?_
    refused := ?_
    opened := ?_
    reserved := fun _ _ => numbered.not_mem_issued
    listed := numbered.mem_summaries_iff
    ordered := numbered.pairwise_summaries }
  · intro error
    by_cases full : lobby.limit ≤ lobby.rooms.size
    · simp [create_of_full full, full_iff.1 full, numbered.limit_eq, eq_comm]
    · simp [create_of_free full, mt full_iff.2 full]
  · intro full
    simp only [Lobby.after, create_of_full (full_iff.2 full)]
  · intro free
    have opened := create_of_free (mt full_iff.1 free)
    rcases create_eq_ok opened with ⟨_, _, deals, rooms⟩
    refine ⟨_, _, opened, by simp only [Lobby.after, opened], isLeast_freeId lobby, ?_,
      fun other apart => (rooms other).trans (if_neg apart),
      Directory.size_insert (room?_freeId lobby) _, deals⟩
    rw [rooms, if_pos rfl, numbered.config_eq]

end Numbered

/-- Whatever is done with a lobby and in its rooms, the lobby numbers its rooms as it should, and
every number that was given on the way is below the limit. -/
theorem rooms_numbered (limit : Nat) (config : RoomConfig) (deals : List Deal) (deeds : List Deed) :
    ((vacant limit config deals).run deeds).NumbersRooms limit config ∧
      ∀ id ∈ (vacant limit config deals).issued deeds, id < limit :=
  ⟨((numbered_vacant limit config deals).run deeds).numbersRooms,
    fun _ issued => (numbered_vacant limit config deals).lt_of_issued issued⟩

/-- Three rooms are opened, the second of them is removed, and two more are opened. -/
example : (vacant 5 {} []).issued [.create, .create, .create, .remove 1, .create, .create] =
    [0, 1, 2, 1, 3] := by decide

end Lobby

end CardTable
