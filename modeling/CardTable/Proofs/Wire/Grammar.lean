import CardTable.Proofs.Wire.Layouts

/-!
# The grammar of requests

What a client may write, spelled out once without the reader: `Request.Spells` relates the words of a
frame to the request they ask for. The reader accepts exactly these words, and however they are laid
out, the frame is cut off with just these words and nothing of what comes behind.
-/

namespace CardTable

namespace Text

variable {digits text : List Char} {value : Nat}

/-! ## Numerals -/

theorem digit?_ten (character : Char) :
    digit? 10 character = if character.isDigit then some (character.toNat - '0'.toNat) else none := by
  unfold digit?
  split
  · next decimal =>
    have small : character.toNat - '0'.toNat < 10 := by
      simp only [Char.isDigit, Bool.and_eq_true, decide_eq_true_eq] at decimal
      have below : character.val.toNat ≤ 57 := decimal.2
      change character.val.toNat - 48 < 10
      omega
    simpa using small
  · split
    · simp
    · split <;> simp

theorem digitsFrom?_ten (value : Nat) (digits : List Char) :
    digitsFrom? 10 value digits =
      if digits.all Char.isDigit then some (Nat.ofDigitChars 10 digits value) else none := by
  induction digits generalizing value with
  | nil => rfl
  | cons digit digits ih =>
    by_cases decimal : digit.isDigit
    · have read : digit? 10 digit = some (digit.toNat - '0'.toNat) := by
        rw [digit?_ten, if_pos decimal]
      simp only [digitsFrom?, read, Option.bind_eq_bind, Option.bind_some, ih, List.all_cons,
        decimal, Bool.true_and, Nat.ofDigitChars_cons, Nat.mul_comm value]
    · have unread : digit? 10 digit = none := by
        rw [digit?_ten, if_neg decimal]
      simp [digitsFrom?, unread, decimal]

theorem unsigned?_ten_eq_some_iff :
    unsigned? 10 digits = some value ↔
      digits ≠ [] ∧ (∀ digit ∈ digits, digit.isDigit) ∧ Nat.ofDigitChars 10 digits 0 = value := by
  cases digits with
  | nil => simp [unsigned?]
  | cons digit digits => simp [unsigned?, digitsFrom?_ten]

/-- A numeral is a run of digits, perhaps behind a plus sign, whose value is below the bound. -/
theorem numeral?_eq_some_iff {bound : Nat} :
    numeral? bound text = some value ↔
      ∃ sign digits, text = sign ++ digits ∧ (sign = [] ∨ sign = ['+']) ∧ digits ≠ [] ∧
        (∀ digit ∈ digits, digit.isDigit) ∧ Nat.ofDigitChars 10 digits 0 = value ∧
        value < bound := by
  constructor
  · intro read
    unfold numeral? at read
    rcases Option.filter_eq_some_iff.1 read with ⟨digits, below⟩
    split at digits
    · next rest =>
      rcases unsigned?_ten_eq_some_iff.1 digits with ⟨some_digit, decimal, value⟩
      exact ⟨['+'], rest, rfl, .inr rfl, some_digit, decimal, value, by simpa using below⟩
    · rcases unsigned?_ten_eq_some_iff.1 digits with ⟨some_digit, decimal, value⟩
      exact ⟨[], _, rfl, .inl rfl, some_digit, decimal, value, by simpa using below⟩
  · rintro ⟨sign, digits, rfl, signed, some_digit, decimal, value, below⟩
    have read : unsigned? 10 digits = some _ :=
      unsigned?_ten_eq_some_iff.2 ⟨some_digit, decimal, value⟩
    rcases signed with rfl | rfl
    · unfold numeral?
      split
      · exact absurd (decimal '+' (by simp_all)) (by decide)
      · simp [read, below]
    · simp [numeral?, read, below]

end Text

namespace Request

/-- The words of a frame spell a request. -/
inductive Spells : Wire.Frame → Request → Prop
  /-- An acknowledgement may be followed by any words. -/
  | ok (arguments : List String) : Spells ("OK" :: arguments) .ok
  | pong : Spells ["PONG"] .pong
  | name {nickname : String} (some_character : 1 ≤ nickname.toList.length)
      (short : nickname.toList.length ≤ 20)
      (visible : ∀ character ∈ nickname.toList, '!' ≤ character ∧ character ≤ '~')
      (no_bar : '|' ∉ nickname.toList) (not_opening : nickname ≠ "PRSI") :
      Spells ["NAME", nickname] (.name nickname)
  | listRooms : Spells ["LIST_ROOMS"] .listRooms
  /-- Digits, perhaps with zeros in front, and perhaps a plus sign in front of them. -/
  | joinRoom {sign digits : List Char} (signed : sign = [] ∨ sign = ['+'])
      (some_digit : digits ≠ []) (decimal : ∀ digit ∈ digits, digit.isDigit)
      (fits : Nat.ofDigitChars 10 digits 0 < Text.wordBound) :
      Spells ["JOIN_ROOM", String.ofList (sign ++ digits)]
        (.joinRoom (Nat.ofDigitChars 10 digits 0))
  | createRoom : Spells ["CREATE_ROOM"] .createRoom
  | leaveRoom : Spells ["LEAVE_ROOM"] .leaveRoom
  | roomInfo : Spells ["ROOM_INFO"] .roomInfo
  | state : Spells ["STATE"] .state
  /-- One of the 32 cards, its suit first. -/
  | play (suit : Suit) (rank : Rank) :
      Spells ["PLAY", String.ofList [suit.symbol, rank.symbol]] (.play ⟨suit, rank⟩)
  | draw : Spells ["DRAW"] .draw
  | pass : Spells ["PASS"] .pass

variable {frame : Wire.Frame} {request : Request}

/-! ## What is accepted is spelled right -/

theorem spells_of_readName {nickname : String} (read : readName nickname = .ok request) :
    Spells ["NAME", nickname] request := by
  unfold readName at read
  split at read
  · next valid =>
    cases read
    have characters : ∀ character ∈ nickname.toList, isNicknameCharacter character = true := by
      simpa using valid.visible
    refine .name (List.length_pos_iff.2 valid.nonempty) valid.short ?_ ?_ valid.notMagic
    · intro character member
      have visible := characters character member
      simp only [isNicknameCharacter, Bool.and_eq_true, decide_eq_true_eq] at visible
      exact visible.1
    · intro bar
      have visible := characters _ bar
      simp [isNicknameCharacter] at visible
  · cases read

theorem spells_of_readJoin {numeral : String} (read : readJoin numeral = .ok request) :
    Spells ["JOIN_ROOM", numeral] request := by
  unfold readJoin at read
  split at read
  · next room value =>
    cases read
    rcases Text.numeral?_eq_some_iff.1 value with
      ⟨sign, digits, written, signed, some_digit, decimal, rfl, fits⟩
    rw [← String.ofList_toList (s := numeral), written]
    exact .joinRoom signed some_digit decimal fits
  · cases read

theorem spells_of_readPlay {word : String} (read : readPlay word = .ok request) :
    Spells ["PLAY", word] request := by
  unfold readPlay at read
  split at read
  · next card written =>
    cases read
    cases Card.parse?_eq_some_iff.1 written
    exact .play card.suit card.rank
  · cases read

theorem spells_of_ofArguments {verb : Verb} {arguments : List String}
    (read : ofArguments verb arguments = .ok request) :
    Spells (verb.text :: arguments) request := by
  unfold ofArguments at read
  split at read
  · cases read
    exact .ok _
  · cases read
    exact .pong
  · exact spells_of_readName read
  · cases read
    exact .listRooms
  · exact spells_of_readJoin read
  · cases read
    exact .createRoom
  · cases read
    exact .leaveRoom
  · cases read
    exact .roomInfo
  · cases read
    exact .state
  · exact spells_of_readPlay read
  · cases read
    exact .draw
  · cases read
    exact .pass
  · cases read

theorem text_of_ofText? {word : String} {verb : Verb} (found : Verb.ofText? word = some verb) :
    verb.text = word := by
  simpa using List.find?_some found

theorem spells_of_ofWords (read : ofWords frame = .ok request) : Spells frame request := by
  unfold ofWords at read
  split at read
  · cases read
  · next word arguments =>
    split at read
    · next verb known =>
      rw [← text_of_ofText? known]
      exact spells_of_ofArguments read
    · cases read

/-! ## What is spelled right is accepted -/

theorem ofWords_of_spells (spells : Spells frame request) : ofWords frame = .ok request := by
  cases spells with
  | ok arguments => rfl
  | pong => rfl
  | @name nickname some_character short visible no_bar not_opening =>
    have valid : IsNickname nickname := by
      refine ⟨List.length_pos_iff.1 some_character, short, not_opening, ?_⟩
      simp only [List.all_eq_true, isNicknameCharacter, Bool.and_eq_true, decide_eq_true_eq]
      intro character member
      refine ⟨visible character member, ?_⟩
      rintro rfl
      exact no_bar member
    exact if_pos valid
  | listRooms => rfl
  | @joinRoom sign digits signed some_digit decimal fits =>
    have value := Text.numeral?_eq_some_iff.2
      ⟨sign, digits, rfl, signed, some_digit, decimal, rfl, fits⟩
    change readJoin _ = _
    rw [readJoin, String.toList_ofList, value]
  | createRoom => rfl
  | leaveRoom => rfl
  | roomInfo => rfl
  | state => rfl
  | play suit rank =>
    change readPlay _ = _
    have written : Card.parse? (String.ofList [suit.symbol, rank.symbol]) = some ⟨suit, rank⟩ :=
      Card.parse?_eq_some_iff.2 rfl
    rw [readPlay, written]
  | draw => rfl
  | pass => rfl

/-- The words of the requests that the reader accepts are exactly those of the grammar, and they mean
what the grammar says. However such words are laid out, and whatever bytes come behind, the input can
be judged and opens well, and the frame that is cut off it has just these words and leaves just the
bytes behind. -/
theorem spelled_frames_accepted (frame : Wire.Frame) :
    (∀ request, ofWords frame = .ok request ↔ Spells frame request) ∧
    ∀ request, Spells frame request → (∀ word ∈ frame, Wire.IsWord word) →
      ∀ layout : Wire.Layout, layout.words = frame →
        ∀ rest lineEnd, Wire.LineEnd rest lineEnd →
          Wire.CanBeJudged (layout.bytes ++ (lineEnd ++ rest)) ∧
          Wire.OpensWell (layout.bytes ++ (lineEnd ++ rest)) ∧
          Wire.cut? (layout.bytes ++ (lineEnd ++ rest)) = some { words := .ok frame, rest } := by
  refine ⟨fun request => ⟨spells_of_ofWords, ofWords_of_spells⟩, ?_⟩
  rintro request - words layout rfl rest lineEnd ends
  rcases layout.opensWell_bytes (lineEnd ++ rest) with ⟨judged, opens⟩
  exact ⟨judged, opens, layout.cut?_bytes words ends⟩

/-- A join request with a tab in front, a no-break space in front of its numeral, and no line
end. -/
theorem spelled_frames_accepted_of_join :
    ∃ layout : Wire.Layout, layout.words = ["JOIN_ROOM", "+007"] ∧ layout.lead = ['\t'] ∧
      Spells layout.words (.joinRoom 7) ∧
      Wire.cut? (layout.bytes ++ ([] ++ Wire.magicBytes)) =
        some { words := .ok layout.words, rest := Wire.magicBytes } := by
  have spells : Spells ["JOIN_ROOM", "+007"] (.joinRoom 7) :=
    (spelled_frames_accepted _).1 _ |>.1 rfl
  have gaps : ∀ part ∈ [([' '], "JOIN_ROOM"), (['\u00a0'], "+007")],
      part.1 ≠ [] ∧ ∀ character ∈ part.1, Text.isBlank character = true := by
    simp
    decide
  refine ⟨⟨['\t'], _, [], by simp [Wire.leadBlanks], gaps, by simp⟩, rfl, rfl, spells, ?_⟩
  have words : ∀ word ∈ ["JOIN_ROOM", "+007"], Wire.IsWord word := by
    simp only [List.forall_mem_cons, List.not_mem_nil, false_implies, implies_true, and_true]
    decide
  have ends : Wire.LineEnd Wire.magicBytes [] := by
    refine .none ?_ ?_ <;> simp [Wire.magicBytes]
  exact ((spelled_frames_accepted _).2 _ spells words _ rfl _ _ ends).2.2

end Request

end CardTable
