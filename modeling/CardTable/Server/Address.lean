import CardTable.Server.Host

/-!
# Addresses

An address to listen on is a host and a number of 16 bits with a colon between them. The last colon
is the one that counts, so that a host may hold colons itself. A host in groups and colons may stand
in brackets; the number behind it has no sign then.
-/

namespace CardTable.Address

/-- The bound of the numbers in addresses. -/
def numberBound : Nat := Nat.pow 2 16

/-- The parts of an address before and behind its last colon. -/
def split? (address : List Char) : Option (List Char × List Char) :=
  match address.reverse.span (· ≠ ':') with
  | (_, []) => none
  | (number, _ :: host) => some (host.reverse, number.reverse)

/-- What stands between brackets. -/
def bracketed? : List Char → Option (List Char)
  | '[' :: rest => if rest.getLast? = some ']' then some rest.dropLast else none
  | _ => none

/-- Whether a server can listen on an address: a machine listens at its host, and its number is one
of 16 bits. -/
def isListenable (address : String) : Bool :=
  match split? address.toList with
  | none => false
  | some (host, number) =>
    match bracketed? host with
    | some inside =>
      Host.isGroupedOwn inside && (Text.unsigned? 10 number).any (· < numberBound)
    | none => Host.isListenable host && (Text.numeral? numberBound number).isSome

end CardTable.Address
