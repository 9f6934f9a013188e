import CardTable.Settings.Document
import CardTable.Settings.Toml.Reader
import CardTable.Text.Numeral

/-!
# Scalars of TOML

Strings in their four forms, numbers, points in time, and the two truth values. Numbers with a
fraction and points in time are only checked: no setting takes one.
-/

namespace CardTable.Toml

open Reader

/-! ## Strings -/

/-- The character with the code that hexadecimal digits spell. -/
def ofHex? (digits : List Char) : Option Char := do
  let code ← Text.unsigned? 16 digits
  if code.isValidChar then some (Char.ofNat code) else none

def exactCount : Nat → Reader (List Char)
  | 0 => return []
  | count + 1 => do return (← next) :: (← exactCount count)

/-- What stands behind a backslash, and the character that it means. -/
def escape : Reader Char := do
  match ← next with
  | 'b' => return '\x08'
  | 't' => return '\t'
  | 'n' => return '\n'
  | 'f' => return '\x0c'
  | 'r' => return '\r'
  | '"' => return '"'
  | '\\' => return '\\'
  | 'u' => StateT.lift (ofHex? (← exactCount 4))
  | 'U' => StateT.lift (ofHex? (← exactCount 8))
  | _ => failure

/-- One character of a string that is quoted on one line. -/
def quotedCharacter : Reader Char :=
  (exactly '\\' *> escape) <|>
    satisfying fun character => isPlain character && character ≠ '"' && character ≠ '\\'

def quoted : Reader (List Char) := do
  exactly '"'
  let characters ← many quotedCharacter
  exactly '"'
  return characters

/-- A string in single quotes on one line, in which nothing is escaped. -/
def literal : Reader (List Char) := do
  exactly '\''
  let characters ← run fun character => isPlain character && character ≠ '\''
  exactly '\''
  return characters

/-- The end of a string over several lines. One or two of its quotes may stand right before it. -/
def longEnd (quote : Char) : Reader (List Char) :=
  (word [quote, quote, quote, quote, quote] *> pure [quote, quote]) <|>
    (word [quote, quote, quote, quote] *> pure [quote]) <|>
    (word [quote, quote, quote] *> pure [])

/-- A line end that is skipped, with all blank space and line ends behind it. -/
def skippedLineEnd : Reader Unit := do
  exactly '\\'
  blanks
  lineEnd
  let _ ← many (lineEnd <|> (do let _ ← satisfying isBlank))

/-- A piece of a string over several lines, which is not at its end. -/
def longPiece (quote : Char) (escapes : Bool) : Reader (List Char) := do
  match ← maybe (longEnd quote) with
  | some _ => failure
  | none =>
    (lineEnd *> pure ['\n']) <|>
      (do
        if escapes then
          (skippedLineEnd *> pure []) <|> (exactly '\\' *> (([·]) <$> escape))
        else failure) <|>
      (([·]) <$> satisfying fun character => isPlain character && !(escapes && character = '\\'))

/-- A string over several lines. A line end right at its start does not count. -/
def long (quote : Char) (escapes : Bool) : Reader (List Char) := do
  word [quote, quote, quote]
  let _ ← maybe lineEnd
  let pieces ← many (longPiece quote escapes)
  return pieces.flatten ++ (← longEnd quote)

def string : Reader String :=
  String.ofList <$> (long '"' true <|> quoted <|> long '\'' false <|> literal)

/-! ## Numbers -/

/-- Digits that may have single underscores between them, without the underscores. -/
def digitRun (isDigit : Char → Bool) : Reader (List Char) := do
  let first ← satisfying isDigit
  let later ← many (maybe (exactly '_') *> satisfying isDigit)
  return first :: later

/-- A sign, and whether it is a minus. -/
def sign : Reader Bool :=
  (exactly '-' *> pure true) <|> (exactly '+' *> pure false) <|> pure false

/-- Decimal digits of a whole number, which has no leading zeros. -/
def decimalDigits : Reader (List Char) := do
  match ← peek? with
  | some '0' => return [← next]
  | _ => digitRun Char.isDigit

def valueOf (base : Nat) (digits : List Char) : Nat :=
  digits.foldl (fun value digit => value * base + (Text.digit? base digit).getD 0) 0

/-- A whole number with the sign and the value given, if it fits 64 bits. -/
def signed? (negative : Bool) (value : Nat) : Option Int :=
  if negative then
    if value ≤ Nat.pow 2 63 then some (-(value : Int)) else none
  else if value < Nat.pow 2 63 then some value else none

/-- A whole number behind a mark for its base. -/
def based (mark : Char) (base : Nat) : Reader Int := do
  word ['0', mark]
  let digits ← digitRun fun digit => (Text.digit? base digit).isSome
  StateT.lift (signed? false (valueOf base digits))

def whole : Reader Int :=
  based 'x' 16 <|> based 'o' 8 <|> based 'b' 2 <|>
    (do
      let negative ← sign
      StateT.lift (signed? negative (valueOf 10 (← decimalDigits))))

/-- Whether `digits` times ten to the power of `exponent` is too large for a floating-point number
of 64 bits. -/
def overflows (digits : List Char) (exponent : Int) : Bool :=
  let significant := digits.dropWhile (· = '0')
  let magnitude := significant.length + exponent
  if significant = [] || magnitude < 300 then false
  else if 400 < magnitude then true
  else
    let limit := Nat.pow 2 1024 - Nat.pow 2 970
    if 0 ≤ exponent then limit ≤ valueOf 10 significant * Nat.pow 10 exponent.toNat
    else limit * Nat.pow 10 (-exponent).toNat ≤ valueOf 10 significant

def exponent : Reader Int := do
  let _ ← satisfying fun mark => mark = 'e' || mark = 'E'
  let negative ← sign
  let value : Int := valueOf 10 (← digitRun Char.isDigit)
  return if negative then -value else value

/-- A number with a fraction or an exponent; one that is too large is none. -/
def fractional : Reader Unit := do
  let negative ← sign
  let front ← decimalDigits
  let fraction ← maybe (exactly '.' *> digitRun Char.isDigit)
  let power ← maybe exponent
  match fraction, power with
  | none, none => failure
  | _, _ =>
    let behind := fraction.getD []
    if !negative && overflows (front ++ behind) (power.getD 0 - behind.length) then failure

/-- A number that is infinite or none. -/
def special : Reader Unit := do
  let _ ← sign
  word ['i', 'n', 'f'] <|> word ['n', 'a', 'n']

/-! ## Points in time -/

/-- A number of so many digits, which has to lie in a range. -/
def digitsBetween (count least most : Nat) : Reader Nat := do
  let digits ← exactCount count
  let value := valueOf 10 digits
  if digits.all Char.isDigit && least ≤ value && value ≤ most then return value else failure

def daysIn (year month : Nat) : Nat :=
  if month = 2 then
    if year % 4 = 0 && (year % 100 ≠ 0 || year % 400 = 0) then 29 else 28
  else if month = 4 || month = 6 || month = 9 || month = 11 then 30
  else 31

def day : Reader Unit := do
  let year ← digitsBetween 4 0 9999
  exactly '-'
  let month ← digitsBetween 2 1 12
  exactly '-'
  let _ ← digitsBetween 2 1 (daysIn year month)

/-- A time of day; a minute may have a leap second. -/
def timeOfDay : Reader Unit := do
  let _ ← digitsBetween 2 0 23
  exactly ':'
  let _ ← digitsBetween 2 0 59
  exactly ':'
  let _ ← digitsBetween 2 0 60
  let _ ← maybe (do
    exactly '.'
    let _ ← satisfying Char.isDigit
    run Char.isDigit)

/-- How far a clock is off. -/
def offset : Reader Unit :=
  (do let _ ← satisfying fun mark => mark = 'Z' || mark = 'z') <|>
    (do
      let _ ← satisfying fun mark => mark = '+' || mark = '-'
      let _ ← digitsBetween 2 0 23
      exactly ':'
      let _ ← digitsBetween 2 0 59)

/-- A point in time: a day, a time of day, or both. -/
def pointInTime : Reader Unit :=
  (do
    day
    let _ ← maybe (do
      let _ ← satisfying fun mark => mark = 'T' || mark = 't' || mark = ' '
      timeOfDay
      maybe offset)) <|>
    timeOfDay

/-! ## All scalars -/

/-- A value that is no list and no table. -/
def scalar : Reader Document := do
  match ← peek? with
  | some '"' | some '\'' => .text <$> string
  | some 't' => word ['t', 'r', 'u', 'e'] *> pure (.flag true)
  | some 'f' => word ['f', 'a', 'l', 's', 'e'] *> pure (.flag false)
  | _ =>
    (pointInTime *> pure .date) <|> (fractional *> pure .other) <|> (special *> pure .other) <|>
      (.whole <$> whole)

end CardTable.Toml
