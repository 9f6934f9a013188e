import CardTable.Settings.Toml.Scalar
import CardTable.Settings.Toml.Tree

/-!
# Reading TOML

A file is a sequence of lines: keys with their values, headers that open tables, comments. Values
may be nested in lists and tables up to a fixed depth.
-/

namespace CardTable.Toml

open Reader

/-- Values must not be nested so deep, and a key must not have so many parts. -/
def depthLimit : Nat := 80

/-! ## Keys -/

def keyPart : Reader String :=
  String.ofList <$> (quoted <|> literal <|> do
    let characters ← run fun character => character.isAlphanum || character = '_' || character = '-'
    if characters.isEmpty then failure
    return characters)

/-- A key: its parts, and apart from them the last one. -/
def key : Reader (List String × String) := do
  let parts ← separated (blanks *> keyPart <* blanks) (exactly '.')
  match parts.reverse with
  | last :: path => if parts.length < depthLimit then return (path.reverse, last) else failure
  | [] => failure

def keyValue (value : Reader Document) : Reader ((List String × String) × Document) := do
  let name ← key
  exactly '='
  blanks
  return (name, ← value)

/-! ## Values -/

/-- What may stand between the values of a list: blanks, line ends and comments. -/
def gap : Reader Unit := do
  let _ ← many ((do let _ ← satisfying isBlank) <|> lineEnd <|> (comment *> lineEnd))

/-- A list of values. A comma may stand behind the last one. -/
def items (value : Reader Document) : Reader Document := do
  exactly '['
  let values ← maybe (separated (gap *> value <* gap) (exactly ','))
  if values.isSome then
    let _ ← maybe (exactly ',')
  gap
  exactly ']'
  return .items (values.getD [])

def inlineTable (value : Reader Document) : Reader Document := do
  exactly '{'
  blanks
  let pairs ← maybe (separated (keyValue value <* blanks) (exactly ','))
  blanks
  exactly '}'
  let entries ← StateT.lift ((pairs.getD []).foldlM
    (fun entries ((path, last), document) => Node.assign [] path last document entries) [])
  return .table (Node.finishEntries entries)

/-- A value nested no deeper than allowed. -/
def value : Nat → Reader Document
  | 0 => scalar
  | depth + 1 => do
    match ← peek? with
    | some '[' => items (value depth)
    | some '{' => inlineTable (value depth)
    | _ => scalar

/-! ## Lines -/

/-- What the lines so far have said, and the header that the next line belongs to. -/
structure Progress where
  header : List String := []
  entries : Entries := []

def tableHeader (progress : Progress) : Reader Progress := do
  exactly '['
  let (path, last) ← key
  exactly ']'
  restOfLine
  return {
    header := path ++ [last]
    entries := ← StateT.lift (Node.openTable path last progress.entries) }

/-- A header that adds a table to a list of tables. -/
def listHeader (progress : Progress) : Reader Progress := do
  word ['[', '[']
  let (path, last) ← key
  word [']', ']']
  restOfLine
  return {
    header := path ++ [last]
    entries := ← StateT.lift (Node.appendTable path last progress.entries) }

def assignment (progress : Progress) : Reader Progress := do
  let ((path, last), document) ← keyValue (value (depthLimit - 1))
  restOfLine
  return { progress with
    entries := ← StateT.lift (Node.assign progress.header path last document progress.entries) }

def line (progress : Progress) : Reader Progress := do
  match ← peek? with
  | some '#' =>
    restOfLine
    return progress
  | some '\n' | some '\r' =>
    lineEnd
    return progress
  | some '[' =>
    match (← get).tail.head? with
    | some '[' => listHeader progress
    | _ => tableHeader progress
  | _ => assignment progress

/-- All lines, no more than the given number. -/
def lines : Nat → Progress → Reader Progress
  | 0, progress => return progress
  | count + 1, progress => do
    blanks
    if (← get).isEmpty then return progress
    lines count (← line progress)

/-- Reads a file. It may open with a byte order mark. -/
def parse? (content : String) : Option Document := do
  let characters := match content.toList with
    | '\ufeff' :: rest => rest
    | characters => characters
  let progress ← Reader.whole (lines (characters.length + 1) {}) characters
  return .table (Node.finishEntries progress.entries)

end CardTable.Toml
