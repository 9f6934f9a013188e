/-!
# Readers

A reader takes a value off the front of a list of characters, or fails and takes nothing. This file
holds the readers that all of TOML is put together from.
-/

namespace CardTable.Toml

/-- Takes a value off the front of the characters. -/
abbrev Reader := StateT (List Char) Option

namespace Reader

/-- The next character, which stays. -/
def peek? : Reader (Option Char) := do
  return (← get).head?

def next : Reader Char := do
  match ← get with
  | [] => failure
  | character :: rest =>
    set rest
    return character

def satisfying (test : Char → Bool) : Reader Char := do
  let character ← next
  if test character then return character else failure

def exactly (character : Char) : Reader Unit := do
  let _ ← satisfying (· = character)

/-- Given characters, one behind the other. -/
def word (characters : List Char) : Reader Unit :=
  characters.forM exactly

/-- The characters up to the first that fails a test. -/
def run (test : Char → Bool) : Reader (List Char) := do
  let characters ← get
  set (characters.dropWhile test)
  return characters.takeWhile test

/-- A value if one can be read. -/
def maybe {α : Type} (reader : Reader α) : Reader (Option α) :=
  (some <$> reader) <|> pure none

/-- Values as long as they can be read, up to a number of them. -/
def upTo {α : Type} (reader : Reader α) : Nat → Reader (List α)
  | 0 => return []
  | count + 1 => do
    match ← maybe reader with
    | none => return []
    | some value => return value :: (← upTo reader count)

/-- Values as long as they can be read, each of which takes at least one character. -/
def many {α : Type} (reader : Reader α) : Reader (List α) := do
  upTo reader (← get).length

/-- Values with separators between them, one at least. -/
def separated {α : Type} (reader : Reader α) (separator : Reader Unit) : Reader (List α) := do
  let first ← reader
  return first :: (← many (separator *> reader))

/-- The value of a reader that takes all the characters. -/
def whole {α : Type} (reader : Reader α) (characters : List Char) : Option α := do
  match ← reader characters with
  | (value, []) => return value
  | _ => none

end Reader

open Reader

def isBlank (character : Char) : Bool :=
  character = ' ' || character = '\t'

/-- Characters that may stand in comments and, but for their own marks, in strings. -/
def isPlain (character : Char) : Bool :=
  character = '\t' || ' ' ≤ character && character ≠ '\x7f'

def blanks : Reader Unit := do
  let _ ← run isBlank

/-- The end of a line, with or without a carriage return. -/
def lineEnd : Reader Unit :=
  word ['\n'] <|> word ['\r', '\n']

/-- A comment, up to the end of its line. -/
def comment : Reader Unit := do
  exactly '#'
  let _ ← run isPlain

def endOfText : Reader Unit := do
  if (← get).isEmpty then return else failure

/-- What may stand between a statement and the next line. -/
def restOfLine : Reader Unit := do
  blanks
  let _ ← maybe comment
  lineEnd <|> endOfText

end CardTable.Toml
