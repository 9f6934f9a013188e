import CardTable.Numbers
import CardTable.Text.Numeral
import CardTable.Wire.Frame

/-!
# Requests

What a client says. `Request.ofWords` reads the words of a frame: the verb comes first, the number
of its arguments is checked next, and then the argument itself.
-/

namespace CardTable

/-- Something a client says. -/
inductive Request
  /-- An acknowledgement, with arguments that do not matter. -/
  | ok
  /-- The answer to a ping; only that it came matters. -/
  | pong
  /-- Take a nickname, or take back one's own. -/
  | name (nickname : String)
  | listRooms
  | joinRoom (room : RoomId)
  | createRoom
  | leaveRoom
  | roomInfo
  /-- Ask for a picture of where one stands. -/
  | state
  | play (card : Card)
  | draw
  /-- Give in to what is pending. -/
  | pass
  deriving DecidableEq, Repr

/-- Whether a character is visible ASCII and no bar. -/
def isNicknameCharacter (character : Char) : Bool :=
  '!' ≤ character && character ≤ '~' && character ≠ '|'

/-- A nickname is one word of 1 to 20 visible ASCII characters, without a bar and other than the
opening word. -/
structure IsNickname (text : String) : Prop where
  nonempty : text.toList ≠ []
  short : text.toList.length ≤ 20
  notMagic : text ≠ Wire.magic
  visible : text.toList.all isNicknameCharacter

instance (text : String) : Decidable (IsNickname text) :=
  decidable_of_iff
    (text.toList ≠ [] ∧ text.toList.length ≤ 20 ∧ text ≠ Wire.magic ∧
      text.toList.all isNicknameCharacter)
    ⟨fun ⟨nonempty, short, notMagic, visible⟩ => ⟨nonempty, short, notMagic, visible⟩,
      fun valid => ⟨valid.nonempty, valid.short, valid.notMagic, valid.visible⟩⟩

namespace Request

def verb : Request → Verb
  | ok => .ok
  | pong => .pong
  | name _ => .name
  | listRooms => .listRooms
  | joinRoom _ => .joinRoom
  | createRoom => .createRoom
  | leaveRoom => .leaveRoom
  | roomInfo => .roomInfo
  | state => .state
  | play _ => .play
  | draw => .draw
  | pass => .pass

def readName (nickname : String) : Except ProtocolError Request :=
  if IsNickname nickname then .ok (.name nickname) else .error (.invalidArgument .name nickname)

/-- Reads the argument of a join request: a numeral that fits 64 bits. -/
def readJoin (numeral : String) : Except ProtocolError Request :=
  match Text.numeral? Text.wordBound numeral.toList with
  | some room => .ok (.joinRoom room)
  | none => .error (.invalidArgument .joinRoom numeral)

def readPlay (word : String) : Except ProtocolError Request :=
  match Card.parse? word with
  | some card => .ok (.play card)
  | none => .error (.invalidCard word)

def ofArguments : Verb → List String → Except ProtocolError Request
  | .ok, _ => .ok .ok
  | .pong, [] => .ok .pong
  | .name, [nickname] => readName nickname
  | .listRooms, [] => .ok .listRooms
  | .joinRoom, [numeral] => readJoin numeral
  | .createRoom, [] => .ok .createRoom
  | .leaveRoom, [] => .ok .leaveRoom
  | .roomInfo, [] => .ok .roomInfo
  | .state, [] => .ok .state
  | .play, [word] => readPlay word
  | .draw, [] => .ok .draw
  | .pass, [] => .ok .pass
  | verb, arguments => .error (.wrongArity verb (verb.arity?.getD 0) arguments.length)

def ofWords : Wire.Frame → Except ProtocolError Request
  | [] => .error .emptyFrame
  | word :: arguments =>
    match Verb.ofText? word with
    | some verb => ofArguments verb arguments
    | none => .error (.unknownVerb word)

end Request

end CardTable
