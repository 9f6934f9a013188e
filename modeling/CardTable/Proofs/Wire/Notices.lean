import CardTable.Proofs.Wire.Layouts
import CardTable.Proofs.Wire.NoticeReader

/-!
# Notices on the wire

A line that the server writes is one layout of the words of its notice. With proper nicknames in it
no word of a notice is broken by white space or a bar, and none is the opening word, so the frame
that is cut off the line has just these words and leaves just what comes behind the line. The words
give back the notice, so no two notices are written alike.
-/

namespace CardTable

open Wire (IsWord)

namespace Snapshot

def nicknames : Snapshot → List String
  | unnamed | lobby => []
  | room view => view.occupants.map Occupant.nickname
  | game view _ next => view.occupants.map Occupant.nickname ++ (next.map TurnView.nickname).toList

end Snapshot

namespace Notice

/-- The nicknames in a notice. -/
def nicknames : Notice → List String
  | ping | ok _ | fail _ | rooms _ | gameStart | hand _ | cards _ | win | lose => []
  | room view => view.occupants.map Occupant.nickname
  | turn view => [view.nickname]
  | join nickname | leave nickname | played nickname _ | skip nickname | drew nickname _
  | sleep nickname | awake nickname | dead nickname => [nickname]
  | leaderboard nicknames => nicknames
  | state snapshot => snapshot.nicknames

/-- The notice that some words spell. -/
def ofWords? (words : List String) : Option Notice :=
  match WordReader.notice.run words with
  | some (notice, []) => some notice
  | _ => none

theorem ofWords?_words (notice : Notice) : ofWords? notice.words = some notice := by
  simp [ofWords?, WordReader.run_notice]

/-! ## The words of a notice -/

theorem isBlank_of_visible {character : Char} (visible : '!' ≤ character ∧ character ≤ '~') :
    Text.isBlank character = false := by
  rcases visible with ⟨low, high⟩
  have low : 33 ≤ character.toNat := low
  have high : character.toNat ≤ 126 := high
  simp [Text.isBlank, Text.blankRanges, Char.le_def, UInt32.le_iff_toNat_le]
  omega

theorem isWord_nickname {nickname : String} (valid : IsNickname nickname) : IsWord nickname := by
  have visible : ∀ character ∈ nickname.toList, isNicknameCharacter character = true := by
    simpa using valid.visible
  refine ⟨valid.nonempty, ?_, ?_, valid.notMagic⟩
  · intro character member
    have between := visible character member
    simp only [isNicknameCharacter, Bool.and_eq_true, decide_eq_true_eq] at between
    exact isBlank_of_visible between.1
  · intro bar
    have apart := visible _ bar
    simp [isNicknameCharacter] at apart

theorem isWord_numberWord (number : Nat) : IsWord (numberWord number) := by
  have digits : (numberWord number).toList = Nat.toDigits 10 number := by
    simp [numberWord]
  have decimal : ∀ digit ∈ (numberWord number).toList, digit.isDigit = true := by
    rw [digits]
    exact fun digit => Nat.isDigit_of_mem_toDigits (by decide) (by decide)
  refine ⟨by simp [digits], ?_, ?_, ?_⟩
  · intro digit member
    have between := decimal digit member
    simp only [Char.isDigit, Bool.and_eq_true, decide_eq_true_eq] at between
    exact isBlank_of_visible
      ⟨Char.le_trans (by decide) between.1, Char.le_trans between.2 (by decide)⟩
  · intro bar
    exact absurd (decimal _ bar) (by decide)
  · intro opening
    exact absurd (decimal 'P' (by simp [opening, Wire.magic])) (by decide)

theorem isWord_card (card : Card) : IsWord card.text := by
  obtain ⟨suit, rank⟩ := card
  cases suit <;> cases rank <;> decide

theorem isWord_roomState (state : RoomState) : IsWord state.text := by
  cases state <;> decide

theorem isWord_command (command : Command) : IsWord command.verb.text := by
  cases command <;> decide

theorem isWord_cardsWords (cards : List Card) : ∀ word ∈ cardsWords cards, IsWord word := by
  simp [cardsWords, isWord_numberWord, isWord_card]

theorem isWord_roomWords {view : RoomView}
    (valid : ∀ nickname ∈ view.occupants.map Occupant.nickname, IsNickname nickname) :
    ∀ word ∈ roomWords view, IsWord word := by
  have presence : ∀ awake : Bool, IsWord (if awake then "awake" else "sleep") := by decide
  have occupants : ∀ word ∈ (view.occupants.flatMap fun occupant =>
      [occupant.nickname, if occupant.awake then "awake" else "sleep"]), IsWord word := by
    intro word member
    rcases List.mem_flatMap.1 member with ⟨occupant, seated, part⟩
    simp only [List.mem_cons, List.not_mem_nil, or_false] at part
    rcases part with rfl | rfl
    · exact isWord_nickname (valid _ (List.mem_map_of_mem seated))
    · exact presence occupant.awake
  have heading : IsWord "ROOM" ∧ IsWord "PLAYERS" := by decide
  simp only [roomWords, List.forall_mem_append, List.forall_mem_cons, List.not_mem_nil,
    false_implies, implies_true, and_true]
  exact ⟨⟨heading.1, isWord_numberWord _, isWord_roomState _, heading.2, isWord_numberWord _⟩,
    occupants⟩

theorem isWord_turnWords {view : TurnView} (valid : IsNickname view.nickname) :
    ∀ word ∈ turnWords view, IsWord word := by
  have headings : IsWord "TURN" ∧ IsWord "TOP" := by decide
  simp only [turnWords, List.forall_mem_cons, List.not_mem_nil, false_implies, implies_true,
    and_true]
  exact ⟨headings.1, isWord_nickname valid, headings.2, isWord_card _⟩

theorem isWord_snapshotWords {snapshot : Snapshot}
    (valid : ∀ nickname ∈ snapshot.nicknames, IsNickname nickname) :
    ∀ word ∈ snapshotWords snapshot, IsWord word := by
  have headings : IsWord "UNNAMED" ∧ IsWord "LOBBY" ∧ IsWord "ROOM" ∧ IsWord "GAME" ∧
      IsWord "HAND" := by decide
  cases snapshot with
  | unnamed => simpa [snapshotWords] using headings.1
  | lobby => simpa [snapshotWords] using headings.2.1
  | room view => simpa [snapshotWords, headings] using isWord_roomWords valid
  | game view held next =>
    simp only [Snapshot.nicknames, List.forall_mem_append] at valid
    have turn : ∀ word ∈ (next.map turnWords).getD [], IsWord word := by
      cases next with
      | none => simp
      | some view => exact isWord_turnWords (valid.2 _ (by simp))
    simp only [snapshotWords, List.forall_mem_append, List.forall_mem_cons, headings, true_and]
    exact ⟨⟨isWord_roomWords valid.1, isWord_cardsWords held⟩, turn⟩

/-- With proper nicknames, the words of a notice are all words. -/
theorem isWord_words {notice : Notice}
    (valid : ∀ nickname ∈ notice.nicknames, IsNickname nickname) :
    ∀ word ∈ notice.words, IsWord word := by
  have headings : IsWord "OK" ∧ IsWord "FAIL" ∧ IsWord "ROOMS" ∧ IsWord "HAND" ∧
      IsWord "PLAYED" ∧ IsWord "DRAWED" ∧ IsWord "CARDS" ∧ IsWord "LEADERBOARD" ∧
      IsWord "STATE" := by decide
  cases notice with
  | ping => exact List.forall_mem_singleton.2 (by decide)
  | gameStart => exact List.forall_mem_singleton.2 (by decide)
  | win => exact List.forall_mem_singleton.2 (by decide)
  | lose => exact List.forall_mem_singleton.2 (by decide)
  | ok command => simp [words, headings, isWord_command]
  | fail command => simp [words, headings, isWord_command]
  | rooms summaries =>
    simp only [words, List.forall_mem_cons, headings, isWord_numberWord, true_and]
    intro word member
    rcases List.mem_flatMap.1 member with ⟨summary, -, part⟩
    simp only [List.mem_cons, List.not_mem_nil, or_false] at part
    rcases part with rfl | rfl
    · exact isWord_numberWord _
    · exact isWord_roomState _
  | room view => exact isWord_roomWords valid
  | turn view => exact isWord_turnWords (valid _ (by simp [nicknames]))
  | hand dealt => simpa [words, headings] using isWord_cardsWords dealt
  | cards drawn => simpa [words, headings] using isWord_cardsWords drawn
  | played nickname card =>
    have nickname := isWord_nickname (valid nickname (by simp [nicknames]))
    simp [words, headings, nickname, isWord_card]
  | drew nickname count =>
    have nickname := isWord_nickname (valid nickname (by simp [nicknames]))
    simp [words, headings, nickname, isWord_numberWord]
  | leaderboard ranking =>
    simp only [words, List.forall_mem_cons, headings, isWord_numberWord, true_and]
    exact fun nickname member => isWord_nickname (valid nickname member)
  | state snapshot => simpa [words, headings] using isWord_snapshotWords valid
  | join nickname | leave nickname | skip nickname | sleep nickname | awake nickname
  | dead nickname =>
    have nickname := isWord_nickname (valid nickname (by simp [nicknames]))
    simp only [words, List.forall_mem_cons, List.not_mem_nil, false_implies, implies_true, and_true]
    exact ⟨by decide, nickname⟩

/-! ## The line of a notice -/

/-- The layout in which a notice is written. -/
def layout (notice : Notice) : Wire.Layout where
  lead := []
  spaced := notice.words.map ([' '], ·)
  trail := [' ']
  lead_blank := by simp
  gap_blank := by simp [Text.isBlank, Text.blankRanges]
  trail_blank := by simp [Text.isBlank, Text.blankRanges]

theorem words_layout (notice : Notice) : notice.layout.words = notice.words := by
  simp [layout, Wire.Layout.words, Function.comp_def]

theorem bytes_eq (notice : Notice) : notice.bytes = notice.layout.bytes ++ [0x0a] := by
  have line : notice.line = String.ofList (notice.layout.body ++ ['|'] ++ ['\n']) := by
    apply String.toList_injective
    simp [Notice.line, layout, Wire.Layout.body, List.flatMap_map]
  rw [Notice.bytes, line, Wire.bytesOf_ofList, List.flatMap_append, ← Wire.bytesOf_ofList]
  rfl

/-- The lines of the server can be read back without doubt. Whatever bytes come behind the line of a
notice with proper nicknames, the frame that is cut off has the words of the notice and leaves just
these bytes; the words give back the notice, and no other notice has them. -/
theorem notices_decodable {notice : Notice}
    (valid : ∀ nickname ∈ notice.nicknames, IsNickname nickname) (rest : Bytes) :
    Wire.cut? (notice.bytes ++ rest) = some { words := .ok notice.words, rest } ∧
      ofWords? notice.words = some notice ∧
      ∀ other : Notice, (∀ nickname ∈ other.nicknames, IsNickname nickname) →
        other.words = notice.words → other = notice := by
  refine ⟨?_, ofWords?_words notice, ?_⟩
  · have words : ∀ word ∈ notice.layout.words, IsWord word := by
      rw [words_layout]
      exact isWord_words valid
    have cut := notice.layout.cut?_bytes words (.lineFeed : Wire.LineEnd rest [0x0a])
    rwa [words_layout, ← List.append_assoc, ← bytes_eq] at cut
  · intro other _ same
    have read := ofWords?_words other
    rw [same, ofWords?_words] at read
    exact (Option.some.inj read).symm

/-- A picture of a game between players who are named like the words around them. -/
theorem notices_decodable_of_picture :
    ∃ notice, notice = state (.game
        { id := 3, state := .playing, occupants := [⟨"TURN", true⟩, ⟨"3", false⟩] }
        [⟨.hearts, .seven⟩] (some { nickname := "PLAYERS", top := ⟨.clubs, .ace⟩ })) ∧
      notice.words = ["STATE", "GAME", "ROOM", "3", "PLAYING", "PLAYERS", "2", "TURN", "awake", "3",
        "sleep", "HAND", "1", "S7", "TURN", "PLAYERS", "TOP", "ZA"] ∧
      Wire.cut? (notice.bytes ++ [0x0d, 0x0a]) =
        some { words := .ok notice.words, rest := [0x0d, 0x0a] } := by
  refine ⟨_, rfl, by decide, (notices_decodable ?_ _).1⟩
  simp only [nicknames, Snapshot.nicknames, List.map_cons, List.map_nil, Option.map_some,
    Option.toList_some, List.cons_append, List.nil_append, List.forall_mem_cons, List.not_mem_nil,
    false_implies, implies_true, and_true]
  decide

end Notice

end CardTable
