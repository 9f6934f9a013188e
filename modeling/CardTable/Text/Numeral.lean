/-!
# Numerals

A numeral is an optional plus sign and one or more decimal digits, leading zeros included. A reader
of numerals is bounded: a value at or above its bound is no numeral for it. Runs of digits without a
sign are read in any base up to sixteen.
-/

namespace CardTable.Text

/-- The value of a digit of a base of at most sixteen; its letters have either case. -/
def digit? (base : Nat) (character : Char) : Option Nat :=
  let value? :=
    if character.isDigit then some (character.toNat - '0'.toNat)
    else if 'a' ≤ character && character ≤ 'f' then some (character.toNat - 'a'.toNat + 10)
    else if 'A' ≤ character && character ≤ 'F' then some (character.toNat - 'A'.toNat + 10)
    else none
  value?.filter (· < base)

/-- The value of a run of digits behind what has been read before. -/
def digitsFrom? (base : Nat) : Nat → List Char → Option Nat
  | value, [] => some value
  | value, character :: rest => do
    let digit ← digit? base character
    digitsFrom? base (value * base + digit) rest

/-- The value of digits without a sign; there has to be at least one. -/
def unsigned? (base : Nat) : List Char → Option Nat
  | [] => none
  | digits => digitsFrom? base 0 digits

/-- The value of a numeral below the bound. -/
def numeral? (bound : Nat) (text : List Char) : Option Nat :=
  let digits := match text with
    | '+' :: rest => rest
    | _ => text
  (unsigned? 10 digits).filter (· < bound)

/-- The bound of whole numbers that fit 64 bits. -/
def wordBound : Nat := Nat.pow 2 64

end CardTable.Text
