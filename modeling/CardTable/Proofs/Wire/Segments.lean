import CardTable.Proofs.Session.Clocks
import Mathlib.Logic.Basic

/-!
# Bytes that come in pieces

A stream of bytes arrives in pieces, and where one piece ends and the next one begins means nothing.
Reading the frames of some bytes and, behind what is left of them, those of the bytes that come later
brings the same frames, or the same problem, as reading all of the bytes at once. Only white space in
front of what is left over may differ, and no reading ever looks at that.
-/

namespace CardTable

namespace Wire

/-! ## White space in front -/

theorem exists_blank {byte : UInt8} (blank : isAsciiBlank byte = true) :
    ∃ character, Text.isBlank character = true ∧ [character].utf8Encode = ⟨#[byte]⟩ := by
  simp only [isAsciiBlank, Bool.or_eq_true, decide_eq_true_eq] at blank
  rcases blank with (((rfl | rfl) | rfl) | rfl) | rfl
  · exact ⟨' ', by decide, by decide⟩
  · exact ⟨'\t', by decide, by decide⟩
  · exact ⟨'\n', by decide, by decide⟩
  · exact ⟨'\x0c', by decide, by decide⟩
  · exact ⟨'\r', by decide, by decide⟩

theorem textOf?_cons {character : Char} {byte : UInt8}
    (spelled : [character].utf8Encode = ⟨#[byte]⟩) (body : Bytes) :
    textOf? (byte :: body) = (textOf? body).map (String.singleton character ++ ·) := by
  have bytes : (⟨(byte :: body).toArray⟩ : ByteArray) =
      [character].utf8Encode ++ ⟨body.toArray⟩ := by
    rw [spelled]
    ext1
    simp
  have valid := @ByteArray.isValidUTF8_utf8Encode_singleton_append_iff ⟨body.toArray⟩ character
  rw [← bytes] at valid
  rw [textOf?, textOf?, String.fromUTF8?, String.fromUTF8?]
  by_cases text : (⟨body.toArray⟩ : ByteArray).IsValidUTF8
  · rw [dif_pos (valid.2 text), dif_pos text, Option.map_some, Option.some_inj]
    apply String.toByteArray_inj.1
    exact bytes
  · rw [dif_neg (mt valid.1 text), dif_neg text, Option.map_none]

theorem words_cons_blank {character : Char} (blank : Text.isBlank character = true)
    (text : List Char) : Text.words (character :: text) = Text.words text := by
  rw [Text.words, List.splitOnP_cons_eq_if_modifyHead, if_pos blank]
  rfl

theorem wordsOf_cons_blank {byte : UInt8} (blank : isAsciiBlank byte = true) (body : Bytes) :
    wordsOf (byte :: body) = wordsOf body := by
  rcases exists_blank blank with ⟨character, white, spelled⟩
  rw [wordsOf, wordsOf, textOf?_cons spelled]
  cases textOf? body with
  | none => rfl
  | some text =>
    rw [Option.map_some]
    simp [words_cons_blank white]

/-- Two inputs that are the same behind the white space in front of them. -/
def SameBehindBlanks (bytes other : Bytes) : Prop :=
  skipBlanks bytes = skipBlanks other

variable {bytes other rest : Bytes}

theorem SameBehindBlanks.append (same : SameBehindBlanks bytes other) (later : Bytes) :
    SameBehindBlanks (bytes ++ later) (other ++ later) := by
  rw [SameBehindBlanks, skipBlanks, skipBlanks] at same
  rw [SameBehindBlanks, skipBlanks, skipBlanks, List.dropWhile_append, List.dropWhile_append, same]

/-- A line end is white space. -/
theorem sameBehindBlanks_skipLineEnd (bytes : Bytes) :
    SameBehindBlanks (skipLineEnd bytes) bytes := by
  unfold skipLineEnd
  split
  · simp [SameBehindBlanks, skipBlanks, isAsciiBlank]
  · simp [SameBehindBlanks, skipBlanks, isAsciiBlank]
  · rfl

/-! ## Cutting off a frame -/

theorem cut?_cons_blank {byte : UInt8} (blank : isAsciiBlank byte = true) (bytes : Bytes) :
    cut? (byte :: bytes) = cut? bytes := by
  have inside : byte ≠ bar := by
    rintro rfl
    cases blank
  simp [cut?, inside, wordsOf_cons_blank blank]

theorem cut?_skipBlanks (bytes : Bytes) : cut? (skipBlanks bytes) = cut? bytes := by
  induction bytes with
  | nil => rfl
  | cons byte bytes ih =>
    rw [skipBlanks, List.dropWhile_cons]
    split
    · next blank =>
      rw [cut?_cons_blank blank]
      exact ih
    · rfl

/-- A frame that is there whole stays the first one, whatever comes behind it. -/
theorem cut?_append {words : Except ProtocolError Frame}
    (whole : cut? bytes = some { words, rest }) (later : Bytes) :
    ∃ rest', cut? (bytes ++ later) = some { words, rest := rest' } ∧
      SameBehindBlanks rest' (rest ++ later) := by
  unfold cut? at whole
  split at whole
  · cases whole
  · next byte behind ended =>
    cases whole
    have unfinished : (bytes.takeWhile (· ≠ bar)).length ≠ bytes.length := by
      intro all
      have split := congrArg List.length (@List.takeWhile_append_dropWhile _ (· ≠ bar) bytes)
      rw [ended, List.length_append, List.length_cons, all] at split
      omega
    refine ⟨skipLineEnd (behind ++ later), ?_, ?_⟩
    · rw [cut?, List.dropWhile_append, List.takeWhile_append, ended, if_neg unfinished]
      rfl
    · refine (sameBehindBlanks_skipLineEnd _).trans ?_
      exact ((sameBehindBlanks_skipLineEnd behind).append later).symm

/-! ## Judging the start -/

theorem CanBeJudged.append (judged : CanBeJudged bytes) (later : Bytes) :
    skipBlanks (bytes ++ later) = skipBlanks bytes ++ later := by
  rw [skipBlanks, skipBlanks, List.dropWhile_append, if_neg]
  intro nothing
  rw [CanBeJudged, skipBlanks, List.isEmpty_iff.1 nothing] at judged
  exact judged rfl

theorem canBeJudged_append (judged : CanBeJudged bytes) (later : Bytes) :
    CanBeJudged (bytes ++ later) := by
  rw [CanBeJudged, judged.append later]
  rw [CanBeJudged] at judged
  intro nothing
  rw [List.drop_append, List.append_eq_nil_iff] at nothing
  exact judged nothing.1

theorem opensWell_append (judged : CanBeJudged bytes) (later : Bytes) :
    OpensWell (bytes ++ later) ↔ OpensWell bytes := by
  have long : magicBytes.length ≤ (skipBlanks bytes).length := by
    rw [CanBeJudged, ne_eq, List.drop_eq_nil_iff] at judged
    omega
  rw [OpensWell, OpensWell, judged.append later, List.take_append_of_le_length long]

/-! ## Reading frames -/

/-- The frames with one more in front, unless it has no words. -/
def withFrame (words : Frame) (frames : List Frame) : List Frame :=
  if words = [] then frames else words :: frames

theorem withFrame_append (words : Frame) (frames later : List Frame) :
    withFrame words (frames ++ later) = withFrame words frames ++ later := by
  rw [withFrame, withFrame]
  split <;> rfl

/-- What a frame that has been cut off and the bytes behind it come to. -/
def readCut (words : Except ProtocolError Frame) (rest : Bytes) :
    Except ProtocolError (List Frame) × Bytes :=
  match words with
  | .error problem => (.error problem, rest)
  | .ok words => ((readFrames rest).1.map (withFrame words), (readFrames rest).2)

theorem readFrames_eq (bytes : Bytes) : readFrames bytes =
    if ¬CanBeJudged bytes then (.ok [], bytes)
    else if ¬OpensWell bytes then (.error .malformedFrame, bytes)
    else
      match cut? bytes with
      | none => (.ok [], bytes)
      | some frame => readCut frame.words frame.rest := by
  rw [readFrames]
  split
  · rfl
  · split
    · rfl
    · split
      · next none => rw [none]
      · next whole => simp only [whole, readCut]
      · next whole =>
        simp only [whole, readCut]
        rfl

/-- White space in front makes no difference to what is read. -/
theorem SameBehindBlanks.readFrames (same : SameBehindBlanks bytes other) :
    (readFrames bytes).1 = (readFrames other).1 ∧
      SameBehindBlanks (readFrames bytes).2 (readFrames other).2 := by
  have cut : cut? bytes = cut? other := by
    rw [← cut?_skipBlanks bytes, ← cut?_skipBlanks other, same]
  have judged : CanBeJudged bytes ↔ CanBeJudged other := by
    rw [CanBeJudged, CanBeJudged, same]
  have opens : OpensWell bytes ↔ OpensWell other := by
    rw [OpensWell, OpensWell, same]
  rw [readFrames_eq bytes, readFrames_eq other, cut]
  simp only [judged, opens]
  split
  · exact ⟨rfl, same⟩
  · split
    · exact ⟨rfl, same⟩
    · split
      · exact ⟨rfl, same⟩
      · exact ⟨rfl, rfl⟩

section Append

variable (judged : CanBeJudged bytes) (opens : OpensWell bytes) (later : Bytes)

include judged

theorem readFrames_append_of_malformed (malformed : ¬OpensWell bytes) :
    (readFrames (bytes ++ later)).1 = .error .malformedFrame := by
  rw [← opensWell_append judged later] at malformed
  rw [readFrames_eq, if_neg (not_not.2 (canBeJudged_append judged later)), if_pos malformed]

include opens

theorem readFrames_append_of_cut {words : Except ProtocolError Frame}
    (whole : cut? bytes = some { words, rest }) :
    ∃ rest', SameBehindBlanks rest' (rest ++ later) ∧
      readFrames (bytes ++ later) = readCut words rest' := by
  rcases cut?_append whole later with ⟨rest', whole', same⟩
  refine ⟨rest', same, ?_⟩
  rw [readFrames_eq, if_neg (not_not.2 (canBeJudged_append judged later)),
    if_neg (not_not.2 ((opensWell_append judged later).2 opens)), whole']

end Append

/-- The frames of some bytes come first, and then those of what is left and what comes later. What
is wrong with the first bytes is wrong with all of them. -/
theorem readFrames_append (bytes later : Bytes) :
    (readFrames (bytes ++ later)).1 = ((readFrames bytes).1.bind fun first =>
        (readFrames ((readFrames bytes).2 ++ later)).1.map (first ++ ·)) ∧
      ((readFrames bytes).1.isOk → SameBehindBlanks (readFrames (bytes ++ later)).2
        (readFrames ((readFrames bytes).2 ++ later)).2) := by
  have nothing (reading : Except ProtocolError (List Frame)) :
      reading = reading.map (([] : List Frame) ++ ·) := by
    cases reading <;> rfl
  fun_induction readFrames bytes with
  | case1 bytes early => exact ⟨nothing _, fun _ => rfl⟩
  | case2 bytes judged malformed =>
    exact ⟨readFrames_append_of_malformed (not_not.1 judged) later malformed, fun ok => by cases ok⟩
  | case3 bytes judged opens unfinished => exact ⟨nothing _, fun _ => rfl⟩
  | case4 bytes judged opens problem rest whole =>
    rcases readFrames_append_of_cut (not_not.1 judged) (not_not.1 opens) later whole with
      ⟨rest', _, joint⟩
    rw [joint]
    exact ⟨rfl, fun ok => by cases ok⟩
  | case5 bytes judged opens words rest whole tail ih =>
    rcases readFrames_append_of_cut (not_not.1 judged) (not_not.1 opens) later whole with
      ⟨rest', same, joint⟩
    rcases same.readFrames with ⟨frames, left⟩
    rcases ih with ⟨frames', left'⟩
    rw [joint, readCut, frames, frames']
    change _ = (((readFrames rest).1.map (withFrame words)).bind fun first =>
        (readFrames ((readFrames rest).2 ++ later)).1.map (first ++ ·)) ∧
      (((readFrames rest).1.map (withFrame words)).isOk → _)
    cases first : (readFrames rest).1 with
    | error problem => exact ⟨rfl, fun ok => by cases ok⟩
    | ok frames =>
      rw [first] at left'
      refine ⟨?_, fun _ => left.trans (left' rfl)⟩
      simp only [Except.map, Except.bind]
      cases (readFrames ((readFrames rest).2 ++ later)).1 with
      | error problem => rfl
      | ok others => exact congrArg Except.ok (withFrame_append words frames others)

/-! ## What can be wrong -/

theorem problem_of_readFrames {problem : ProtocolError}
    (wrong : (readFrames bytes).1 = .error problem) :
    problem = .malformedFrame ∨ problem = .notText := by
  fun_induction readFrames bytes with
  | case1 | case3 => cases wrong
  | case2 bytes judged malformed =>
    cases wrong
    exact .inl rfl
  | case4 bytes judged opens problem' rest whole =>
    cases wrong
    unfold cut? at whole
    split at whole
    · cases whole
    · rw [Option.some_inj, Cut.mk.injEq, wordsOf] at whole
      cases text : textOf? (bytes.takeWhile (· ≠ bar)) with
      | none =>
        rw [text] at whole
        cases whole.1
        exact .inr rfl
      | some text' =>
        rw [text] at whole
        cases whole.1
  | case5 bytes judged opens words rest whole tail ih =>
    apply ih
    change (readFrames rest).1.map _ = _ at wrong
    cases first : (readFrames rest).1 with
    | error problem' =>
      rw [first] at wrong
      exact wrong
    | ok frames =>
      rw [first] at wrong
      cases wrong

end Wire

/-! ## Sessions -/

namespace Session

open Wire (SameBehindBlanks)

/-- The session once more bytes have come in. -/
def grown (session : Session) (later : Bytes) : Session :=
  { session with incoming := session.incoming ++ later }

/-- Takes the frames that are there whole each time that a piece has come in. -/
def takePieces (session : Session) :
    List Bytes → Except SessionError (List Wire.Frame) × Session
  | [] => (.ok [], session)
  | piece :: pieces =>
    match (session.grown piece).takeFrames with
    | (.error error, rest) => (.error error, rest)
    | (.ok frames, rest) =>
      let later := rest.takePieces pieces
      (later.1.map (frames ++ ·), later.2)

theorem grown_grown (session : Session) (bytes later : Bytes) :
    (session.grown bytes).grown later = session.grown (bytes ++ later) := by
  simp [grown]

theorem takeFrames_grown (session : Session) (later : Bytes) :
    (session.grown later).takeFrames.1 = (session.takeFrames.1.bind fun first =>
        (session.takeFrames.2.grown later).takeFrames.1.map (first ++ ·)) ∧
      (session.takeFrames.1.isOk → SameBehindBlanks (session.grown later).takeFrames.2.incoming
        (session.takeFrames.2.grown later).takeFrames.2.incoming) := by
  rcases Wire.readFrames_append session.incoming later with ⟨frames, rest⟩
  simp only [takeFrames, grown]
  rw [frames]
  cases first : (Wire.readFrames session.incoming).1 with
  | error problem => exact ⟨rfl, fun ok => by cases ok⟩
  | ok frames =>
    rw [first] at rest
    refine ⟨?_, fun _ => rest rfl⟩
    cases (Wire.readFrames ((Wire.readFrames session.incoming).2 ++ later)).1 <;> rfl

/-- However a stream is cut into pieces, its frames are those of the whole stream. -/
theorem takePieces_eq (session : Session) (piece : Bytes) (pieces : List Bytes) :
    (session.takePieces (piece :: pieces)).1 =
        (session.grown (piece :: pieces).flatten).takeFrames.1 ∧
      ((session.takePieces (piece :: pieces)).1.isOk →
        SameBehindBlanks (session.grown (piece :: pieces).flatten).takeFrames.2.incoming
          (session.takePieces (piece :: pieces)).2.incoming) := by
  induction pieces generalizing session piece with
  | nil =>
    rw [List.flatten_singleton, takePieces]
    rcases (session.grown piece).takeFrames with ⟨error | frames, rest⟩
    · exact ⟨rfl, fun _ => rfl⟩
    · exact ⟨congrArg Except.ok (List.append_nil frames), fun _ => rfl⟩
  | cons next pieces ih =>
    rcases takeFrames_grown (session.grown piece) (next :: pieces).flatten with ⟨frames, left⟩
    rw [List.flatten_cons, ← grown_grown, frames, takePieces]
    rcases first : (session.grown piece).takeFrames with ⟨error | first', rest⟩
    · exact ⟨rfl, fun ok => by cases ok⟩
    · rcases ih rest next with ⟨frames', left'⟩
      rw [first] at left
      refine ⟨congrArg (Except.map (first' ++ ·)) frames', fun ok => (left rfl).trans (left' ?_)⟩
      dsimp only at ok
      cases others : (rest.takePieces (next :: pieces)).1 with
      | error error =>
        rw [others] at ok
        cases ok
      | ok _ => rfl

theorem error_of_takeFrames {session : Session} {error : SessionError}
    (wrong : session.takeFrames.1 = .error error) :
    error = .protocol .malformedFrame ∨ error = .protocol .notText := by
  rw [takeFrames] at wrong
  cases read : (Wire.readFrames session.incoming).1 with
  | error problem =>
    rw [read] at wrong
    cases wrong
    exact (Wire.problem_of_readFrames read).imp (congrArg _) (congrArg _)
  | ok frames =>
    rw [read] at wrong
    cases wrong

/-- It does not matter how the bytes of a stream come in. If what has come is wrong, it is wrong in
the same way with whatever comes later. If it is not, the frames of what comes later follow, or the
problem, and what is left over is the same but for white space in front. So the frames of a stream
that comes in any number of pieces are those of the whole stream. -/
theorem frames_of_pieces (session : Session) :
    (∀ later error, session.takeFrames.1 = .error error →
      (session.grown later).takeFrames.1 = .error error) ∧
    (∀ later first rest, session.takeFrames = (.ok first, rest) →
      (session.grown later).takeFrames.1 = (rest.grown later).takeFrames.1.map (first ++ ·) ∧
        SameBehindBlanks (session.grown later).takeFrames.2.incoming
          (rest.grown later).takeFrames.2.incoming) ∧
    (∀ error, session.takeFrames.1 = .error error →
      error = .protocol .malformedFrame ∨ error = .protocol .notText) ∧
    ∀ piece pieces,
      (session.takePieces (piece :: pieces)).1 =
          (session.grown (piece :: pieces).flatten).takeFrames.1 ∧
        ((session.takePieces (piece :: pieces)).1.isOk →
          SameBehindBlanks (session.grown (piece :: pieces).flatten).takeFrames.2.incoming
            (session.takePieces (piece :: pieces)).2.incoming) := by
  refine ⟨?_, ?_, fun _ => error_of_takeFrames, session.takePieces_eq⟩
  · intro later error wrong
    rw [(session.takeFrames_grown later).1, wrong]
    rfl
  · intro later first rest taken
    rcases session.takeFrames_grown later with ⟨frames, left⟩
    rw [taken] at frames left
    exact ⟨frames, left rfl⟩

/-- A line end may be cut in two. -/
theorem frames_of_pieces_in_line_end :
    let session : Session := { fresh 1 0 with incoming := Wire.bytesOf "PRSI NAME Ann |\r" }
    let rest : Session := { fresh 1 0 with incoming := Wire.bytesOf "\r" }
    let later := Wire.bytesOf "\nPRSI STATE |"
    session.takeFrames.1.toOption = some [["NAME", "Ann"]] ∧
      (session.grown later).takeFrames.1 =
        (rest.grown later).takeFrames.1.map ([["NAME", "Ann"]] ++ ·) := by
  intro session rest later
  have frames : session.takeFrames.1.toOption = some [["NAME", "Ann"]] := by decide +kernel
  have left : session.takeFrames.2 = rest := by decide +kernel
  refine ⟨frames, ?_⟩
  have taken : session.takeFrames = (.ok [["NAME", "Ann"]], rest) := by
    refine Prod.ext ?_ left
    cases read : session.takeFrames.1 with
    | error error =>
      rw [read] at frames
      cases frames
    | ok others =>
      rw [read] at frames
      exact congrArg Except.ok (Option.some.inj frames)
  exact ((frames_of_pieces session).2.1 later _ rest taken).1

end Session

end CardTable
