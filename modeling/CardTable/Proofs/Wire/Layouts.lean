import CardTable.Proofs.Wire.Segments

/-!
# Layouts

The words of a frame may be written down in many ways: with any white space in front of the opening
word, between the words and behind them, and with any line end or none behind the bar. The file
proves that whatever the layout, cutting off the first frame gives the words back, and leaves just
the bytes that come behind.
-/

namespace CardTable

namespace Text

theorem words_nil : words [] = [] := by
  simp [words, List.splitOnP_nil]

/-- White space ends a word. -/
theorem words_append_cons {blank : Char} (white : isBlank blank = true) (text later : List Char) :
    words (text ++ blank :: later) = words text ++ words later := by
  simp [words, List.splitOnP_append_cons text later white]

theorem words_append_of_blank {blanks : List Char} (white : ∀ blank ∈ blanks, isBlank blank = true)
    (text : List Char) : words (text ++ blanks) = words text := by
  induction blanks generalizing text with
  | nil => simp
  | cons blank blanks ih =>
    rw [List.forall_mem_cons] at white
    have nothing := ih white.2 []
    simp only [List.nil_append, words_nil] at nothing
    simp [words_append_cons white.1, nothing]

theorem words_blank_append {blanks : List Char} (white : ∀ blank ∈ blanks, isBlank blank = true)
    (text : List Char) : words (blanks ++ text) = words text := by
  induction blanks with
  | nil => rfl
  | cons blank blanks ih =>
    rw [List.forall_mem_cons] at white
    have shorter := words_append_cons white.1 [] (blanks ++ text)
    simpa [words_nil, ih white.2] using shorter

theorem words_of_unbroken {word : List Char} (nonempty : word ≠ [])
    (unbroken : ∀ character ∈ word, isBlank character = false) : words word = [word] := by
  simp [words, List.splitOnP_eq_singleton unbroken, nonempty]

end Text

namespace Wire

/-! ## Bytes of a text -/

theorem bytesOf_ofList (characters : List Char) :
    bytesOf (String.ofList characters) = characters.flatMap String.utf8EncodeChar := by
  simp [bytesOf, List.utf8Encode]

theorem textOf?_bytesOf (text : String) : textOf? (bytesOf text) = some text := by
  have same : (⟨(bytesOf text).toArray⟩ : ByteArray) = text.toByteArray := by
    simp [bytesOf]
  rw [textOf?, same]
  simp [String.fromUTF8?, text.isValidUTF8]
  rfl

/-- The byte of the bar stands for the bar and is part of no other character. -/
theorem bar_mem_utf8EncodeChar {character : Char} :
    bar ∈ String.utf8EncodeChar character ↔ character = '|' := by
  have whole : character = '|' ↔ character.val.toNat = 124 := by
    rw [Char.ext_iff, ← UInt32.toNat_inj]
    rfl
  rw [whole]
  unfold String.utf8EncodeChar
  generalize character.val.toNat = value
  simp only [bar]
  split
  · simp [← UInt8.toNat_inj]
    omega
  · split
    · simp [← UInt8.toNat_inj]
      omega
    · split <;>
      · simp [← UInt8.toNat_inj]
        omega

theorem bar_mem_bytesOf {characters : List Char} :
    bar ∈ bytesOf (String.ofList characters) ↔ '|' ∈ characters := by
  simp [bytesOf_ofList, bar_mem_utf8EncodeChar]

/-- What stands in front of the first bar is cut off, and its text read. -/
theorem cut?_of_bar {body : List Char} (no_bar : '|' ∉ body) (behind : Bytes) :
    cut? (bytesOf (String.ofList (body ++ ['|'])) ++ behind) =
      some { words := wordsOf (bytesOf (String.ofList body)), rest := skipLineEnd behind } := by
  have apart : bytesOf (String.ofList (body ++ ['|'])) ++ behind =
      bytesOf (String.ofList body) ++ bar :: behind := by
    rw [bytesOf_ofList, bytesOf_ofList, List.flatMap_append, List.append_assoc]
    rfl
  have inside : ∀ byte ∈ bytesOf (String.ofList body), decide (byte ≠ bar) = true := by
    intro byte member
    apply decide_eq_true
    rintro rfl
    exact no_bar (bar_mem_bytesOf.1 member)
  rw [cut?, apart, List.dropWhile_append_of_pos inside, List.takeWhile_append_of_pos inside]
  simp

/-! ## Layouts of a frame -/

/-- A word that can be written in a frame and is read again. -/
structure IsWord (word : String) : Prop where
  nonempty : word.toList ≠ []
  unbroken : ∀ character ∈ word.toList, Text.isBlank character = false
  no_bar : '|' ∉ word.toList
  not_magic : word ≠ magic

theorem isWord_iff {word : String} :
    IsWord word ↔ word.toList ≠ [] ∧ (word.toList.all fun character => !Text.isBlank character) ∧
      '|' ∉ word.toList ∧ word ≠ magic := by
  simp only [List.all_eq_true, Bool.not_eq_true']
  exact ⟨fun ⟨nonempty, unbroken, no_bar, not_magic⟩ => ⟨nonempty, unbroken, no_bar, not_magic⟩,
    fun ⟨nonempty, unbroken, no_bar, not_magic⟩ => ⟨nonempty, unbroken, no_bar, not_magic⟩⟩

instance (word : String) : Decidable (IsWord word) :=
  decidable_of_iff _ isWord_iff.symm

/-- The white space that may stand in front of a frame: space, tab, line feed, form feed, carriage
return. -/
def leadBlanks : List Char := [' ', '\t', '\n', '\x0c', '\r']

/-- A way to write words in a frame. -/
structure Layout where
  /-- What stands in front of the opening word. -/
  lead : List Char
  /-- The words, each behind the white space in front of it. -/
  spaced : List (List Char × String)
  /-- What stands between the last word and the bar. -/
  trail : List Char
  lead_blank : ∀ character ∈ lead, character ∈ leadBlanks
  gap_blank : ∀ part ∈ spaced, part.1 ≠ [] ∧ ∀ character ∈ part.1, Text.isBlank character = true
  trail_blank : ∀ character ∈ trail, Text.isBlank character = true

/-- What may come between the bar and the bytes behind the frame. -/
inductive LineEnd (rest : Bytes) : Bytes → Prop
  | lineFeed : LineEnd rest [0x0a]
  | carriageReturn : LineEnd rest [0x0d, 0x0a]
  | none (no_feed : ¬[0x0a] <+: rest) (no_return : ¬[0x0d, 0x0a] <+: rest) : LineEnd rest []

namespace Layout

def words (layout : Layout) : Frame :=
  layout.spaced.map Prod.snd

/-- Everything in front of the bar. -/
def body (layout : Layout) : List Char :=
  layout.lead ++ magic.toList ++
    (layout.spaced.flatMap fun part => part.1 ++ part.2.toList) ++ layout.trail

/-- The written frame, its bar included. -/
def bytes (layout : Layout) : Bytes :=
  bytesOf (String.ofList (layout.body ++ ['|']))

end Layout

theorem isBlank_of_mem_leadBlanks {character : Char} (lead : character ∈ leadBlanks) :
    Text.isBlank character = true ∧
      ∃ byte, isAsciiBlank byte = true ∧ String.utf8EncodeChar character = [byte] := by
  simp only [leadBlanks, List.mem_cons, List.not_mem_nil, or_false] at lead
  rcases lead with rfl | rfl | rfl | rfl | rfl
  · exact ⟨by decide, 0x20, by decide, by decide⟩
  · exact ⟨by decide, 0x09, by decide, by decide⟩
  · exact ⟨by decide, 0x0a, by decide, by decide⟩
  · exact ⟨by decide, 0x0c, by decide, by decide⟩
  · exact ⟨by decide, 0x0d, by decide, by decide⟩

theorem not_bar_of_isBlank {character : Char} (blank : Text.isBlank character = true) :
    character ≠ '|' := by
  rintro rfl
  revert blank
  decide

theorem skipLineEnd_of_lineEnd {rest lineEnd : Bytes} (ends : LineEnd rest lineEnd) :
    skipLineEnd (lineEnd ++ rest) = rest := by
  cases ends with
  | lineFeed => rfl
  | carriageReturn => rfl
  | none no_feed no_return =>
    rw [List.nil_append]
    unfold skipLineEnd
    split
    · simp at no_return
    · simp at no_feed
    · rfl

/-- The words behind some text, each behind its gap. -/
theorem words_spaced {spaced : List (List Char × String)}
    (gaps : ∀ part ∈ spaced, part.1 ≠ [] ∧ ∀ character ∈ part.1, Text.isBlank character = true)
    (words : ∀ part ∈ spaced, IsWord part.2) (text : List Char) :
    Text.words (text ++ spaced.flatMap fun part => part.1 ++ part.2.toList) =
      Text.words text ++ spaced.map fun part => part.2.toList := by
  induction spaced generalizing text with
  | nil => simp
  | cons part spaced ih =>
    rw [List.forall_mem_cons] at gaps words
    rcases part with ⟨gap, word⟩
    rcases gaps.1 with ⟨some_gap, white⟩
    rcases List.exists_cons_of_ne_nil some_gap with ⟨blank, blanks, rfl⟩
    rw [List.forall_mem_cons] at white
    have first : Text.words (text ++ (blank :: blanks ++ word.toList)) =
        Text.words text ++ [word.toList] := by
      rw [List.cons_append, Text.words_append_cons white.1, Text.words_blank_append white.2,
        Text.words_of_unbroken words.1.nonempty words.1.unbroken]
    have rest := ih gaps.2 words.2 (text ++ (blank :: blanks ++ word.toList))
    rw [first] at rest
    simpa using rest

namespace Layout

variable (layout : Layout)

theorem lead_isBlank : ∀ character ∈ layout.lead, Text.isBlank character = true :=
  fun character member => (isBlank_of_mem_leadBlanks (layout.lead_blank character member)).1

theorem no_bar_body (words : ∀ word ∈ layout.words, IsWord word) : '|' ∉ layout.body := by
  intro bar
  simp only [body, List.mem_append, List.mem_flatMap] at bar
  rcases bar with ((lead | opening) | ⟨part, member, gap | word⟩) | trail
  · exact not_bar_of_isBlank (layout.lead_isBlank _ lead) rfl
  · revert opening
    decide
  · exact not_bar_of_isBlank ((layout.gap_blank part member).2 _ gap) rfl
  · exact (words part.2 (List.mem_map_of_mem member)).no_bar word
  · exact not_bar_of_isBlank (layout.trail_blank _ trail) rfl

theorem words_body (words : ∀ word ∈ layout.words, IsWord word) :
    (Text.words layout.body).map String.ofList = magic :: layout.words := by
  have parts : ∀ part ∈ layout.spaced, IsWord part.2 := fun part member =>
    words part.2 (List.mem_map_of_mem member)
  have opening : Text.words (layout.lead ++ magic.toList) = [magic.toList] := by
    rw [Text.words_blank_append layout.lead_isBlank]
    decide
  rw [body, Text.words_append_of_blank layout.trail_blank, words_spaced layout.gap_blank parts,
    opening]
  simp [Layout.words, Function.comp_def]

/-- A frame is cut off with its words, whatever its layout and whatever comes behind it. -/
theorem cut?_bytes (words : ∀ word ∈ layout.words, IsWord word) {rest lineEnd : Bytes}
    (ends : LineEnd rest lineEnd) :
    cut? (layout.bytes ++ (lineEnd ++ rest)) =
      some { words := .ok layout.words, rest } := by
  have kept : layout.words.filter (· ≠ magic) = layout.words := by
    apply List.filter_eq_self.2
    intro word member
    simpa using (words word member).not_magic
  rw [bytes, cut?_of_bar (layout.no_bar_body words), skipLineEnd_of_lineEnd ends, wordsOf,
    textOf?_bytesOf]
  simp only [String.toList_ofList, layout.words_body words]
  rw [List.filter_cons_of_neg (by simp), kept]

theorem skipBlanks_bytes (behind : Bytes) :
    ∃ later, later ≠ [] ∧ skipBlanks (layout.bytes ++ behind) = magicBytes ++ later := by
  have white : ∀ byte ∈ layout.lead.flatMap String.utf8EncodeChar, isAsciiBlank byte = true := by
    intro byte member
    rcases List.mem_flatMap.1 member with ⟨character, lead, encoded⟩
    rcases (isBlank_of_mem_leadBlanks (layout.lead_blank character lead)).2 with ⟨_, blank, single⟩
    rw [single, List.mem_singleton] at encoded
    rwa [encoded]
  have opening : magic.toList.flatMap String.utf8EncodeChar = magicBytes := by decide
  refine ⟨(layout.spaced.flatMap fun part => part.1 ++ part.2.toList).flatMap
    String.utf8EncodeChar ++ layout.trail.flatMap String.utf8EncodeChar ++ [bar] ++ behind, ?_, ?_⟩
  · simp
  · rw [bytes, body, bytesOf_ofList]
    simp only [List.flatMap_append, List.append_assoc, opening]
    rw [skipBlanks, List.dropWhile_append_of_pos white]
    rfl

/-- A frame that is there can be judged, and it opens well. -/
theorem opensWell_bytes (behind : Bytes) :
    CanBeJudged (layout.bytes ++ behind) ∧ OpensWell (layout.bytes ++ behind) := by
  rcases layout.skipBlanks_bytes behind with ⟨later, some_later, skipped⟩
  simp [CanBeJudged, OpensWell, skipped, some_later]

end Layout

end Wire

end CardTable
