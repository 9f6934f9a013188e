import CardTable.Settings.Document

/-!
# Tables in the making

What the lines of a file have said so far. A table remembers how it came to be, because that decides
what later lines may add to it: a table is opened by a header at most once, a table that came to be
on the way to another one can still be opened, and dotted keys add only to tables that dotted keys
have made.
-/

namespace CardTable.Toml

inductive Origin
  /-- A header opened it. -/
  | header
  /-- It is on the way to a table that a header opened. -/
  | passage
  /-- A dotted key made it. -/
  | dotted
  deriving DecidableEq, Repr

/-- A value, a table, or a list of tables that headers add to. -/
inductive Node
  | value (document : Document)
  | table (origin : Origin) (entries : List (String × Node))
  | tables (elements : List (List (String × Node)))

abbrev Entries := List (String × Node)

namespace Node

def find? (entries : Entries) (key : String) : Option Node :=
  entries.lookup key

/-- The entries with a node in the place of the one of a key, or behind all others. -/
def put : Entries → String → Node → Entries
  | [], key, node => [(key, node)]
  | (other, old) :: rest, key, node =>
    if other = key then (key, node) :: rest else (other, old) :: put rest key node

def changeLast (change : Entries → Option Entries) : List Entries → Option (List Entries)
  | [] => none
  | [last] => do return [← change last]
  | first :: later => do return first :: (← changeLast change later)

/--
Changes the entries of the table at the end of a path, and makes the tables on the way that are not
there. The last table of a list of tables stands for the list. With `dotted` set the path belongs to
a dotted key, which may not lead through a table that a header opened.
-/
def descend (dotted : Bool) (change : Option Origin → Entries → Option Entries) :
    Option Origin → List String → Entries → Option Entries
  | origin, [], entries => change origin entries
  | _, key :: path, entries =>
    match find? entries key with
    | none => do
      let origin : Origin := if dotted then .dotted else .passage
      return put entries key (.table origin (← descend dotted change (some origin) path []))
    | some (.value _) => none
    | some (.table origin inner) => do
      if dotted && origin = .header then none
      return put entries key (.table origin (← descend dotted change (some origin) path inner))
    | some (.tables elements) => do
      let changed ← changeLast (descend dotted change (some .header) path) elements
      return put entries key (.tables changed)

/-- Adds a value under a key of a table, which must be new there. With a dotted key, the table must
have been made by dotted keys. -/
def addValue (dotted : Bool) (key : String) (document : Document) (origin : Option Origin)
    (entries : Entries) : Option Entries :=
  if dotted && origin ≠ some .dotted then none
  else if (find? entries key).isSome then none
  else some (put entries key (.value document))

/-- Adds a value under a path of keys, within the table of the last header. -/
def assign (header : List String) (path : List String) (key : String) (document : Document)
    (entries : Entries) : Option Entries :=
  let dotted := !path.isEmpty
  descend false
    (fun origin inner => descend true (addValue dotted key document) origin path inner) none header
    entries

def openAt (key : String) (_ : Option Origin) (entries : Entries) : Option Entries :=
  match find? entries key with
  | none => some (put entries key (.table .header []))
  | some (.table .passage inner) => some (put entries key (.table .header inner))
  | some _ => none

/-- Adds a table to the list of tables under a key. -/
def appendAt (key : String) (_ : Option Origin) (entries : Entries) : Option Entries :=
  match find? entries key with
  | none => some (put entries key (.tables [[]]))
  | some (.tables elements) => some (put entries key (.tables (elements ++ [[]])))
  | some _ => none

/-- Opens the table that a header names. -/
def openTable (path : List String) (key : String) (entries : Entries) : Option Entries :=
  descend false (openAt key) none path entries

/-- Adds a table to the list of tables that a header names. -/
def appendTable (path : List String) (key : String) (entries : Entries) : Option Entries :=
  descend false (appendAt key) none path entries

mutual

def finish : Node → Document
  | value document => document
  | table _ entries => .table (finishEntries entries)
  | tables elements => .items (finishElements elements)

def finishEntries : List (String × Node) → List (String × Document)
  | [] => []
  | (key, node) :: rest => (key, finish node) :: finishEntries rest

def finishElements : List (List (String × Node)) → List Document
  | [] => []
  | entries :: rest => .table (finishEntries entries) :: finishElements rest

end

end Node

end CardTable.Toml
