import CardTable.Proofs.Client.Scene
import Mathlib.Data.List.Forall2

/-!
# The roster that a client keeps

From a picture of the room on, a client keeps a list of who sits there by applying every line that
concerns the roster. Whatever it sees happen, the list stays that of the scene, except that nobody is
told whether one is awake oneself.
-/

namespace CardTable

/-- The roster that a client keeps, from what the first word shows. -/
def rosterIn : List Word → List Occupant
  | [] => []
  | first :: later =>
    (later.map Word.notice).foldl Notice.onRoster (first.notice.roster?.getD [])

theorem rosterIn_append {words : List Word} (nonempty : words ≠ []) (later : List Word) :
    rosterIn (words ++ later) = (later.map Word.notice).foldl Notice.onRoster (rosterIn words) := by
  cases words with
  | nil => exact (nonempty rfl).elim
  | cons first rest => rw [List.cons_append, rosterIn, rosterIn, List.map_append, List.foldl_append]

namespace Notice

variable {notice : Notice}

theorem KeepsRoster.onRoster (calm : notice.KeepsRoster) (roster : List Occupant) :
    notice.onRoster roster = roster := by
  cases notice with
  | join | leave | sleep | awake => exact calm.elim
  | _ => rfl

theorem KeepsRoster.roster? (calm : notice.KeepsRoster) : notice.roster? = none := by
  cases notice with
  | room => exact calm.elim
  | state snapshot => cases snapshot <;> first | exact calm.elim | rfl
  | _ => rfl

end Notice

theorem foldl_onRoster_of_calm {words : List Word} (calm : ∀ word ∈ words, word.notice.KeepsRoster)
    (roster : List Occupant) : (words.map Word.notice).foldl Notice.onRoster roster = roster := by
  induction words with
  | nil => rfl
  | cons word words ih =>
    rw [List.forall_mem_cons] at calm
    rw [List.map_cons, List.foldl_cons, calm.1.onRoster, ih calm.2]

theorem Word.IsTalk.keepsRoster {word : Word} (talk : word.IsTalk) : word.notice.KeepsRoster := by
  cases word with
  | said notice => exact Notice.IsTalk.keepsRoster talk
  | laid card => exact talk.elim

theorem Deed.keepsRoster_word (deed : Deed) (own : Bool) (nickname : String) :
    (deed.word own nickname).notice.KeepsRoster := by
  cases deed <;> cases own <;> trivial

/-! ## Occupants and guests -/

/-- What is known of an occupant is right, as far as the player `me` can know it. -/
structure Occupant.Describes (me : PlayerId) (known : Occupant) (guest : Guest) : Prop where
  nickname : known.nickname = guest.nickname
  awake : guest.player ≠ me → known.awake = guest.awake

/-- A roster lists the guests in their order, and is right about them. -/
def Lists (me : PlayerId) (roster : List Occupant) (guests : List Guest) : Prop :=
  List.Forall₂ (Occupant.Describes me) roster guests

section Lists

variable {me : PlayerId} {roster : List Occupant} {guests : List Guest}

theorem lists_map_occupant (me : PlayerId) (guests : List Guest) :
    Lists me (guests.map Guest.occupant) guests := by
  rw [Lists, List.forall₂_map_left_iff, List.forall₂_same]
  intro guest _
  exact ⟨rfl, fun _ => rfl⟩

theorem Lists.join (lists : Lists me roster guests) {guest : Guest} (awake : guest.awake = true) :
    Lists me (Notice.onRoster roster (.join guest.nickname)) (guests ++ [guest]) := by
  apply List.rel_append lists
  exact .cons ⟨rfl, fun _ => awake.symm⟩ .nil

theorem Lists.leave (lists : Lists me roster guests) {leaver : Guest}
    (unique : ∀ guest ∈ guests, guest.nickname = leaver.nickname ↔ guest.player = leaver.player) :
    Lists me (Notice.onRoster roster (.leave leaver.nickname))
      (guests.filter fun guest => guest.player ≠ leaver.player) := by
  rw [Lists] at lists ⊢
  rw [Notice.onRoster]
  induction lists with
  | nil => exact .nil
  | @cons known guest roster guests describes _ ih =>
    rw [List.forall_mem_cons] at unique
    have rest := ih unique.2
    by_cases gone : guest.player = leaver.player
    · have named : known.nickname = leaver.nickname := describes.nickname.trans (unique.1.2 gone)
      simpa [gone, named] using rest
    · have named : known.nickname ≠ leaver.nickname := by
        rw [describes.nickname]
        exact mt unique.1.1 gone
      simpa [gone, named, describes] using rest

/-- What is said of somebody who falls asleep or wakes up changes the roster rightly. -/
theorem Lists.doze (lists : Lists me roster guests) {guest : Guest} (awake : Bool)
    (unique : ∀ other ∈ guests, other.nickname = guest.nickname ↔ other.player = guest.player) :
    Lists me (Notice.onRoster roster (if awake then .awake guest.nickname else .sleep guest.nickname))
      (guests.map (Guest.told guest.player awake)) := by
  have changed : Notice.onRoster roster
      (if awake then .awake guest.nickname else .sleep guest.nickname) =
        roster.map fun occupant =>
          if occupant.nickname = guest.nickname then { occupant with awake } else occupant := by
    cases awake <;> rfl
  rw [changed, Lists]
  rw [List.forall₂_map_left_iff, List.forall₂_map_right_iff]
  rw [Lists] at lists
  induction lists with
  | nil => exact .nil
  | @cons known other roster guests describes _ ih =>
    rw [List.forall_mem_cons] at unique
    refine .cons ?_ (ih unique.2 (by cases awake <;> rfl))
    rw [Guest.told]
    by_cases same : other.player = guest.player
    · rw [if_pos (describes.nickname.trans (unique.1.2 same)), if_pos same]
      exact ⟨describes.nickname, fun _ => rfl⟩
    · have named : known.nickname ≠ guest.nickname := by
        rw [describes.nickname]
        exact mt unique.1.1 same
      rw [if_neg named, if_neg same]
      exact describes

/-- Nobody needs to be told of oneself. -/
theorem Lists.doze_self (lists : Lists me roster guests) (awake : Bool) :
    Lists me roster (guests.map (Guest.told me awake)) := by
  rw [Lists, List.forall₂_map_right_iff]
  refine lists.imp ?_
  intro known guest describes
  refine ⟨describes.nickname.trans (Guest.nickname_told _ _ _).symm, ?_⟩
  intro other
  rw [Guest.player_told] at other
  rw [Guest.told, if_neg other]
  exact describes.awake other

end Lists

/-! ## The roster of a scene -/

variable {me : PlayerId} {scene next : Scene} {words later : List Word}

theorem Scene.Distinct.nickname_iff {guest other : Guest} (distinct : scene.Distinct)
    (member : guest ∈ scene.guests) (member' : other ∈ scene.guests) :
    other.nickname = guest.nickname ↔ other.player = guest.player := by
  constructor
  · intro same
    rw [distinct.nickname member' member same]
  · intro same
    rw [distinct.player member' member same]

/-- The roster of an account is that of the scene. -/
def KnowsRoster (me : PlayerId) (scene : Scene) (account : List Word) : Prop :=
  Lists me (rosterIn account) scene.guests

/-- Every picture of the room gives the right roster from then on, unless the client has entered
another room since. -/
def FollowsRoster (me : PlayerId) (scene : Scene) (words : List Word) : Prop :=
  Accounts (fun word => word.notice.roster?.isSome) (fun word => word.notice.Enters)
    (KnowsRoster me scene) words

/-- A deed, what is said besides, and what is said about the turn afterwards, do not concern the
roster. -/
theorem keepsRoster_of_act (deed : Deed) (own : Bool) (nickname : String) (turn : TurnView)
    (idle : ∀ word ∈ words, word.IsTalk) :
    ∀ word ∈ deed.word own nickname :: words ++ [.said (.turn turn)], word.notice.KeepsRoster := by
  intro word member
  rcases List.mem_append.1 member with told | last
  · rcases List.mem_cons.1 told with rfl | idle'
    · exact deed.keepsRoster_word own nickname
    · exact (idle word idle').keepsRoster
  · rw [List.mem_singleton.1 last]
    trivial

theorem Sees.knowsRoster (sees : Sees me scene later next) {account : List Word}
    (nonempty : account ≠ []) (knows : KnowsRoster me scene account) :
    KnowsRoster me next (account ++ later) := by
  rw [KnowsRoster, rosterIn_append nonempty]
  cases sees with
  | talk idle =>
    rw [foldl_onRoster_of_calm fun word member => (idle word member).keepsRoster]
    exact knows
  | picture pictured => cases pictured <;> exact knows
  | join awake waiting => exact Lists.join knows awake
  | start own alike turn => exact knows
  | @act game after actor deed words turn distinct on member done idle turn' =>
    rw [foldl_onRoster_of_calm (keepsRoster_of_act deed _ _ turn idle)]
    exact knows
  | close calm =>
    rw [foldl_onRoster_of_calm calm]
    exact knows
  | @leave leaver words distinct member calm =>
    rw [List.map_cons, List.foldl_cons, foldl_onRoster_of_calm calm]
    exact Lists.leave knows fun other member' => distinct.nickname_iff member member'
  | @quit game after leaver turn distinct on member other hands turn' =>
    exact Lists.leave knows fun other member' => distinct.nickname_iff member member'
  | @doze guest awake words distinct member words_eq =>
    rw [words_eq]
    split
    · next self =>
      rw [← self] at knows ⊢
      exact Lists.doze_self knows awake
    · exact Lists.doze knows awake fun other member' => distinct.nickname_iff member member'

/-- Only a picture of the room opens an account, and it shows the room rightly. -/
theorem Sees.followsRoster (sees : Sees me scene later next) : FollowsRoster me next later := by
  have silent : (∀ word ∈ later, word.notice.KeepsRoster) → FollowsRoster me next later := by
    intro calm
    apply accounts_of_not_opens
    intro word member
    simp [(calm word member).roster?]
  cases sees with
  | talk idle => exact silent fun word member => (idle word member).keepsRoster
  | @picture notice pictured =>
    intro before first rest split _ _
    rcases List.append_eq_singleton_iff.1 split.symm with ⟨rfl, alone⟩ | ⟨_, none⟩
    · cases alone
      rw [KnowsRoster]
      cases pictured with
      | room occupants | state occupants | game occupants own =>
        simp only [rosterIn, Word.notice, Notice.roster?, occupants, List.map_nil, List.foldl_nil,
          Option.getD_some]
        exact lists_map_occupant me _
    · cases none
  | join awake waiting =>
    apply accounts_of_not_opens
    simp [Word.notice, Notice.roster?]
  | start own alike turn =>
    apply silent
    simp [Word.notice, Notice.KeepsRoster]
  | @act game after actor deed words turn distinct on member done idle turn' =>
    exact silent (keepsRoster_of_act deed _ _ turn idle)
  | close calm => exact silent calm
  | @leave leaver words distinct member calm =>
    apply accounts_of_not_opens
    intro word member'
    rcases List.mem_cons.1 member' with rfl | rest
    · simp [Word.notice, Notice.roster?]
    · simp [(calm word rest).roster?]
  | @quit game after leaver turn distinct on member other hands turn' =>
    apply accounts_of_not_opens
    simp [Word.notice, Notice.roster?]
  | @doze guest awake words distinct member words_eq =>
    apply accounts_of_not_opens
    rw [words_eq]
    split
    · simp
    · cases awake <;> simp [Word.notice, Notice.roster?]

/-- Whatever a client sees, it follows the roster. -/
theorem FollowsRoster.sees (follows : FollowsRoster me scene words)
    (sees : Sees me scene later next) : FollowsRoster me next (words ++ later) :=
  Accounts.append follows (fun _ nonempty knows _ => sees.knowsRoster nonempty knows)
    sees.followsRoster

/-- Whoever enters a room has no roster of it yet. -/
theorem followsRoster_of_enters {notice : Notice} (enters : notice.Enters) (words : List Word) :
    FollowsRoster me scene (words ++ [.said notice]) := by
  have before : Accounts (fun word => word.notice.roster?.isSome) (fun word => word.notice.Enters)
      (fun _ => True) words := fun _ _ _ _ _ _ => trivial
  refine before.append ?_ ?_
  · intro account _ _ still
    exact (still (.said notice) List.mem_cons_self enters).elim
  · apply accounts_of_not_opens
    cases notice with
    | ok command => simp [Word.notice, Notice.roster?]
    | _ => exact enters.elim

end CardTable
