import CardTable.Text.Words
import CardTable.Wire.Basic

/-!
# Frames

Cutting the bytes received so far into frames. A frame ends at the first bar, together with the
line end right behind the bar, and its words are those of its text other than the opening word.
What has not come to a bar yet stays where it is.
-/

namespace CardTable.Wire

abbrev Frame := List String

def isAsciiBlank (byte : UInt8) : Bool :=
  byte = 0x20 || byte = 0x09 || byte = 0x0a || byte = 0x0c || byte = 0x0d

def skipBlanks (bytes : Bytes) : Bytes :=
  bytes.dropWhile isAsciiBlank

/-- More bytes have come than the opening word has, so that the start can be judged. -/
def CanBeJudged (bytes : Bytes) : Prop :=
  (skipBlanks bytes).drop magicBytes.length ≠ []

instance (bytes : Bytes) : Decidable (CanBeJudged bytes) :=
  inferInstanceAs (Decidable (_ ≠ _))

/-- The input opens, behind white space, with the opening word. -/
def OpensWell (bytes : Bytes) : Prop :=
  (skipBlanks bytes).take magicBytes.length = magicBytes

instance (bytes : Bytes) : Decidable (OpensWell bytes) :=
  inferInstanceAs (Decidable (_ = _))

/-- The bytes behind a line end, if one comes first. -/
def skipLineEnd : Bytes → Bytes
  | 0x0d :: 0x0a :: rest => rest
  | 0x0a :: rest => rest
  | bytes => bytes

def wordsOf (body : Bytes) : Except ProtocolError Frame :=
  match textOf? body with
  | none => .error .notText
  | some text => .ok (((Text.words text.toList).map String.ofList).filter (· ≠ magic))

/-- A frame cut off the front of the input: its words, and the bytes behind it. -/
structure Cut where
  words : Except ProtocolError Frame
  rest : Bytes

/-- Cuts off the first frame, if it is there whole. A frame that is no text is cut off as well. -/
def cut? (bytes : Bytes) : Option Cut :=
  match bytes.dropWhile (· ≠ bar) with
  | [] => none
  | _ :: rest => some { words := wordsOf (bytes.takeWhile (· ≠ bar)), rest := skipLineEnd rest }

theorem length_skipLineEnd_le (bytes : Bytes) : (skipLineEnd bytes).length ≤ bytes.length := by
  unfold skipLineEnd
  split <;> grind

/-- Cutting off a frame takes at least its bar. -/
theorem length_rest_lt {bytes : Bytes} {frame : Cut} (whole : cut? bytes = some frame) :
    frame.rest.length < bytes.length := by
  unfold cut? at whole
  split at whole
  · simp at whole
  · next found =>
    cases whole
    have shorter := (List.dropWhile_suffix (l := bytes) (· ≠ bar)).length_le
    rw [found, List.length_cons] at shorter
    have := length_skipLineEnd_le ‹_›
    simp only
    omega

/-- Cuts off frames as long as one is there whole, and says what is left. -/
def cutAll (bytes : Bytes) : List Cut × Bytes :=
  match _whole : cut? bytes with
  | none => ([], bytes)
  | some frame =>
    let later := cutAll frame.rest
    (frame :: later.1, later.2)
termination_by bytes.length
decreasing_by exact length_rest_lt _whole

/-- All frames that are there whole, and the bytes left. A frame without words is passed over. The
first thing wrong ends the reading, with the bytes behind it left. -/
def readFrames (bytes : Bytes) : Except ProtocolError (List Frame) × Bytes :=
  if ¬CanBeJudged bytes then (.ok [], bytes)
  else if ¬OpensWell bytes then (.error .malformedFrame, bytes)
  else
    match _whole : cut? bytes with
    | none => (.ok [], bytes)
    | some { words := .error problem, rest } => (.error problem, rest)
    | some { words := .ok words, rest } =>
      let later := readFrames rest
      (later.1.map fun frames => if words = [] then frames else words :: frames, later.2)
termination_by bytes.length
decreasing_by exact length_rest_lt _whole

end CardTable.Wire
