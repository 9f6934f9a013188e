import CardTable.Text.Numeral

/-!
# Hosts

A host is written as a name, in numbers and dots, or in groups and colons. Numbers and dots spell a
number of 32 bits, groups and colons one of 128 bits. The only name is the one that a machine has
for itself, as no other name can be looked up. A machine listens at its own numbers alone: those
that lead back to it, those of a group of machines, and those that stand for all of them.
-/

namespace CardTable.Host

/-! ## Numbers and dots -/

/-- The number that one part in numbers and dots stands for: hexadecimal behind `0x`, octal behind
`0`, decimal otherwise. -/
def part? : List Char → Option Nat
  | '0' :: 'x' :: digits => Text.unsigned? 16 digits
  | '0' :: 'X' :: digits => Text.unsigned? 16 digits
  | '0' :: digits => Text.unsigned? 8 ('0' :: digits)
  | digits => Text.unsigned? 10 digits

/-- The number that parts make up in so many bytes: each part is one byte, but the last one, which
takes the bytes that are left. -/
def ofParts? : Nat → List Nat → Option Nat
  | 0, _ => none
  | _, [] => none
  | bytes, [last] => if last < Nat.pow 256 bytes then some last else none
  | bytes + 1, part :: rest =>
    if part < 256 then (ofParts? bytes rest).map (part * Nat.pow 256 bytes + ·) else none

/-- The number of 32 bits that a host in numbers and dots stands for. -/
def dotted? (host : List Char) : Option Nat := do
  ofParts? 4 (← (host.splitOn '.').mapM part?)

/-- The number that a part stands for where all parts are decimal and have no leading zeros. -/
def octet? (digits : List Char) : Option Nat :=
  if digits.head? = some '0' && digits.length ≠ 1 then none else Text.unsigned? 10 digits

/-- The number of 32 bits that four decimal parts stand for. -/
def quad? (host : List Char) : Option Nat := do
  let parts ← (host.splitOn '.').mapM octet?
  if parts.length = 4 then ofParts? 4 parts else none

/-! ## Groups and colons -/

def group? (digits : List Char) : Option Nat :=
  if digits.length ≤ 4 then Text.unsigned? 16 digits else none

/-- The groups of texts between colons, of which the last may be four decimal parts in place of two
groups. -/
def groups? : List (List Char) → Option (List Nat)
  | [] => some []
  | [last] =>
    if last.elem '.' then
      (quad? last).map fun value => [value / Nat.pow 2 16, value % Nat.pow 2 16]
    else (group? last).map ([·])
  | first :: rest => do return (← group? first) :: (← groups? rest)

/-- The parts of a text before and behind its first two colons in a row. -/
def splitGap? : List Char → Option (List Char × List Char)
  | [] => none
  | ':' :: ':' :: rest => some ([], rest)
  | character :: rest =>
    (splitGap? rest).map fun (before, behind) => (character :: before, behind)

/-- The texts between the colons on one side of a gap, where there may be none. -/
def side (text : List Char) : List (List Char) :=
  if text = [] then [] else text.splitOn ':'

/-- The eight groups of a host, where a gap stands for one or more groups of zero. -/
def allGroups? (host : List Char) : Option (List Nat) :=
  match splitGap? host with
  | none => do
    let groups ← groups? (host.splitOn ':')
    if groups.length = 8 then some groups else none
  | some (before, behind) => do
    let left ← (side before).mapM group?
    let right ← groups? (side behind)
    if left.length + right.length < 8 then
      some (left ++ List.replicate (8 - left.length - right.length) 0 ++ right)
    else none

/-- Whether what stands behind the groups of a host is nothing or the number of a zone. -/
def isZone : List Char → Bool
  | [] => true
  | _ :: digits => (Text.unsigned? 10 digits).any (· < Nat.pow 2 32)

/-- The number of 128 bits that a host in groups and colons stands for. -/
def grouped? (host : List Char) : Option Nat := do
  let (host, zone) := host.span (· ≠ '%')
  let groups ← allGroups? host
  if isZone zone then
    some (groups.foldl (fun value group => value * Nat.pow 2 16 + group) 0)
  else none

/-! ## Where a machine listens -/

/-- Whether a machine listens at a number of 32 bits: one of the block 127, of the blocks of groups
from 224 to 239, or the number that stands for all of its own, or for all machines. -/
def isOwn (value : Nat) : Bool :=
  let block := value / Nat.pow 2 24
  value = 0 || block = 127 || (224 ≤ block && block < 240) || value + 1 = Nat.pow 2 32

/-- Whether a machine listens at a number of 128 bits: the number that stands for all of its own,
the one that leads back to it, or a number of 32 bits at which it listens, behind 16 ones. -/
def isOwnLong (value : Nat) : Bool :=
  value = 0 || value = 1 ||
    (value / Nat.pow 2 32 = Nat.pow 2 16 - 1 && isOwn (value % Nat.pow 2 32))

def isGroupedOwn (host : List Char) : Bool :=
  (grouped? host).any isOwnLong

/-- The name that a machine has for itself, in either case. -/
def isName (host : List Char) : Bool :=
  host.map Char.toLower = "localhost".toList

def isListenable (host : List Char) : Bool :=
  isName host || (dotted? host).any isOwn || isGroupedOwn host

end CardTable.Host
