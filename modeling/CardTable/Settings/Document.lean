import CardTable.Text.Numeral

/-!
# Documents

The values that a configuration is read from, whatever it was written in, and how the settings of a
group are found in one. A group is a table, whose entries may be missing and may be more than is
asked for, or a list of values for the first of the settings, which in some formats may be longer
than the settings are many.
-/

namespace CardTable

/-- A value of a configuration. -/
inductive Document
  | text (value : String)
  | whole (value : Int)
  | flag (value : Bool)
  /-- A point in time, which no setting takes. -/
  | date
  /-- Anything else that no setting takes. -/
  | other
  /-- A list that settings may be read from even if it goes on behind the last of them. -/
  | items (values : List Document)
  /-- A list that settings are read from only if all of it is settings. -/
  | row (values : List Document)
  | table (entries : List (String × Document))
  deriving Inhabited

namespace Document

def text? : Document → Option String
  | text value => some value
  | _ => none

/-- The value as a number that fits 64 bits. -/
def number? : Document → Option Nat
  | whole (.ofNat value) => if value < Text.wordBound then some value else none
  | _ => none

def flag? : Document → Option Bool
  | flag value => some value
  | _ => none

/-- The settings of a group by their names. A point in time counts as a group without settings. -/
def group? (names : List String) : Document → Option (List (String × Document))
  | table entries => some entries
  | items values => some (names.zip values)
  | row values => if values.length ≤ names.length then some (names.zip values) else none
  | date => some []
  | _ => none

/-- A setting of a group: the fallback if it is not there, and nothing if it is of a wrong kind. -/
def setting {α : Type} (group : List (String × Document)) (read : Document → Option α)
    (name : String) (fallback : α) : Option α :=
  match group.lookup name with
  | some value => read value
  | none => some fallback

end Document

end CardTable
