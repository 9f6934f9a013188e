import CardTable.Proofs.Wire.Notices
import Mathlib.Data.List.TakeWhile

/-!
# Lines one behind the other

What a client receives is one line behind the other. As long as no notice has an improper nickname
in it, each line is cut off as one frame with the words of its notice, and the next line follows at
once; so all of them can be read back, and nothing is left over.
-/

namespace CardTable

namespace Notice

variable {notice : Notice}

/-- Every nickname in the notice is one that may be taken. -/
def Proper (notice : Notice) : Prop :=
  ∀ nickname ∈ notice.nicknames, IsNickname nickname

theorem proper_of_nameless (nameless : notice.nicknames = []) : notice.Proper := by
  simp [Proper, nameless]

theorem proper_of_single {nickname : String} (single : notice.nicknames = [nickname])
    (valid : IsNickname nickname) : notice.Proper := by
  simpa [Proper, single] using valid

theorem Proper.isWord_layout (proper : notice.Proper) :
    ∀ word ∈ notice.layout.words, Wire.IsWord word := by
  rw [words_layout]
  exact isWord_words proper

/-- The line of a proper notice is cut off as one frame, whatever comes behind it. -/
theorem Proper.cut?_bytes (proper : notice.Proper) (rest : Bytes) :
    Wire.cut? (notice.bytes ++ rest) = some { words := .ok notice.words, rest } := by
  have cut := notice.layout.cut?_bytes proper.isWord_layout
    (.lineFeed : Wire.LineEnd rest [0x0a])
  rwa [words_layout, ← List.append_assoc, ← bytes_eq] at cut

/-- From the first part of a line nothing is cut off before its bar is there, and everything then. -/
theorem Proper.cut?_of_part (proper : notice.Proper) {part : Bytes}
    (begins : part <+: notice.bytes) :
    Wire.cut? part = none ∨ Wire.cut? part = some { words := .ok notice.words, rest := [] } := by
  have apart : notice.layout.bytes =
      Wire.bytesOf (String.ofList notice.layout.body) ++ [Wire.bar] := by
    rw [Wire.Layout.bytes, Wire.bytesOf_ofList, Wire.bytesOf_ofList, List.flatMap_append]
    rfl
  rw [bytes_eq, List.prefix_concat_iff] at begins
  rcases begins with whole | begins
  · right
    rw [whole, ← bytes_eq]
    simpa using proper.cut?_bytes []
  · rw [apart, List.prefix_concat_iff] at begins
    rcases begins with ended | begins
    · -- Only the line end is missing.
      right
      have cut := notice.layout.cut?_bytes proper.isWord_layout
        (.none (by simp) (by simp) : Wire.LineEnd [] [])
      rwa [words_layout, List.append_nil, List.append_nil, apart, ← ended] at cut
    · left
      have no_bar : ∀ byte ∈ part, byte ≠ Wire.bar := by
        rintro byte member rfl
        have bar := Wire.bar_mem_bytesOf.1 (begins.subset member)
        exact notice.layout.no_bar_body proper.isWord_layout bar
      have nothing : part.dropWhile (· ≠ Wire.bar) = [] := by
        simpa [List.dropWhile_eq_nil_iff] using no_bar
      rw [Wire.cut?, nothing]

end Notice

namespace Wire

/-- Bytes that are frames throughout: one for each of the notices, with its words, in this order. -/
structure ReadsAs (stream : Bytes) (notices : List Notice) : Prop where
  words : (cutAll stream).1.map Cut.words = notices.map fun notice => .ok notice.words
  whole : (cutAll stream).2 = []

theorem cutAll_of_none {bytes : Bytes} (missing : cut? bytes = none) :
    cutAll bytes = ([], bytes) := by
  rw [cutAll]
  split
  · rfl
  · next found =>
    rw [missing] at found
    cases found

theorem cutAll_nil : cutAll [] = ([], []) :=
  cutAll_of_none rfl

/-- Behind a frame that has been cut off the reading goes on. -/
theorem cutAll_of_cut? {bytes : Bytes} {frame : Cut} (cut : cut? bytes = some frame) :
    cutAll bytes = (frame :: (cutAll frame.rest).1, (cutAll frame.rest).2) := by
  rw [cutAll]
  split
  · next missing =>
    rw [cut] at missing
    cases missing
  · next found =>
    rw [cut] at found
    cases found
    rfl

theorem readsAs_lines {notices : List Notice} (proper : ∀ notice ∈ notices, notice.Proper) :
    ReadsAs (notices.flatMap Notice.bytes) notices := by
  induction notices with
  | nil => exact ⟨by simp [cutAll_nil], by simp [cutAll_nil]⟩
  | cons notice later ih =>
    rw [List.forall_mem_cons] at proper
    have first := cutAll_of_cut? (proper.1.cut?_bytes (later.flatMap Notice.bytes))
    have rest := ih proper.2
    rw [List.flatMap_cons]
    refine ⟨?_, ?_⟩
    · rw [first, List.map_cons, List.map_cons, rest.words]
    · rw [first]
      exact rest.whole

/-- Whoever has received only so much of the lines reads the words of the first few of them. -/
theorem exists_read_of_part {notices : List Notice} (proper : ∀ notice ∈ notices, notice.Proper)
    {stream : Bytes} (begins : stream <+: notices.flatMap Notice.bytes) :
    ∃ read, (cutAll stream).1.map Cut.words =
      (notices.take read).map fun notice => .ok notice.words := by
  induction notices generalizing stream with
  | nil =>
    rw [List.flatMap_nil, List.prefix_nil] at begins
    exact ⟨0, by simp [begins, cutAll_nil]⟩
  | cons notice later ih =>
    rw [List.forall_mem_cons] at proper
    rw [List.flatMap_cons] at begins
    rcases List.prefix_or_prefix_of_prefix begins (List.prefix_append _ _) with part | whole
    · rcases proper.1.cut?_of_part part with missing | cut
      · exact ⟨0, by simp [cutAll_of_none missing]⟩
      · refine ⟨1, ?_⟩
        rw [cutAll_of_cut? cut]
        simp [cutAll_nil]
    · rcases whole with ⟨rest, rfl⟩
      rw [List.prefix_append_right_inj] at begins
      rcases ih proper.2 begins with ⟨read, words⟩
      refine ⟨read + 1, ?_⟩
      rw [cutAll_of_cut? (proper.1.cut?_bytes rest), List.map_cons, words]
      rfl

end Wire

end CardTable
