import CardTable.Card

/-!
# The wire

What both directions of the line share: bytes, the word that opens every frame, the byte that ends
it, the verbs, and what can be wrong with input. A frame is written

    PRSI <verb> <arguments> |

and everything between the opening word and the bar is words separated by blanks.
-/

namespace CardTable

abbrev Bytes := List UInt8

namespace Wire

/-- The word that opens every frame. -/
def magic : String := "PRSI"

def magicBytes : Bytes := [0x50, 0x52, 0x53, 0x49]

/-- The bar, which ends every frame. -/
def bar : UInt8 := 0x7c

/-- The bytes of a text in UTF-8. -/
def bytesOf (text : String) : Bytes :=
  text.toUTF8.data.toList

/-- The text that bytes spell in UTF-8, if they spell one. -/
def textOf? (bytes : Bytes) : Option String :=
  String.fromUTF8? ⟨bytes.toArray⟩

end Wire

/-- What a client can ask for. -/
inductive Verb
  | ok
  | pong
  | name
  | listRooms
  | joinRoom
  | createRoom
  | leaveRoom
  | roomInfo
  | state
  | play
  | draw
  | pass
  deriving DecidableEq, Repr

namespace Verb

def all : List Verb :=
  [ok, pong, name, listRooms, joinRoom, createRoom, leaveRoom, roomInfo, state, play, draw, pass]

def text : Verb → String
  | ok => "OK"
  | pong => "PONG"
  | name => "NAME"
  | listRooms => "LIST_ROOMS"
  | joinRoom => "JOIN_ROOM"
  | createRoom => "CREATE_ROOM"
  | leaveRoom => "LEAVE_ROOM"
  | roomInfo => "ROOM_INFO"
  | state => "STATE"
  | play => "PLAY"
  | draw => "DRAW"
  | pass => "PASS"

def ofText? (word : String) : Option Verb :=
  all.find? fun verb => verb.text = word

/-- How many arguments the verb takes; an acknowledgement carries any number. -/
def arity? : Verb → Option Nat
  | ok => none
  | name | joinRoom | play => some 1
  | _ => some 0

end Verb

/-- What can be wrong with what a client sends. -/
inductive ProtocolError
  /-- The input does not open with the opening word. -/
  | malformedFrame
  /-- A frame is not UTF-8. -/
  | notText
  | emptyFrame
  | unknownVerb (word : String)
  | wrongArity (verb : Verb) (expected got : Nat)
  | invalidArgument (verb : Verb) (value : String)
  | invalidCard (word : String)
  deriving DecidableEq, Repr

def ProtocolError.message : ProtocolError → String
  | malformedFrame => "frame does not start with the protocol magic"
  | notText => "frame is not valid text"
  | emptyFrame => "empty frame"
  | unknownVerb word => s!"unknown verb: {word}"
  | wrongArity verb expected got => s!"{verb.text} expects {expected} argument(s), got {got}"
  | invalidArgument verb value => s!"invalid argument for {verb.text}: {value}"
  | invalidCard word => s!"invalid card token: {word}"

end CardTable
