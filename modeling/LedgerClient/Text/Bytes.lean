/-!
# Byte strings and their hexadecimal form

Everything that travels between the client and the network is a list of bytes. This
module names that type and holds the lower-case hexadecimal form used for transaction
ids: two digits per byte, most significant digit first.
-/

namespace LedgerClient

/-- A byte string. -/
abbrev Bytes := List UInt8

namespace Hex

/-- The lower-case digit for a value below sixteen. -/
def digit (n : Nat) : Char :=
  if n < 10 then Char.ofNat ('0'.toNat + n) else Char.ofNat ('a'.toNat + (n - 10))

/-- The value of a digit of either case. -/
def digitValue? (c : Char) : Option Nat :=
  if '0' ≤ c ∧ c ≤ '9' then some (c.toNat - '0'.toNat)
  else if 'a' ≤ c ∧ c ≤ 'f' then some (c.toNat - 'a'.toNat + 10)
  else if 'A' ≤ c ∧ c ≤ 'F' then some (c.toNat - 'A'.toNat + 10)
  else none

/-- Two digits for each byte. -/
def chars (bytes : Bytes) : List Char :=
  bytes.flatMap fun b => [digit (b.toNat / 16), digit (b.toNat % 16)]

/-- The hexadecimal form of a byte string. -/
def encode (bytes : Bytes) : String :=
  String.ofList (chars bytes)

/-- Reads pairs of digits; an odd length or a foreign character has no value. -/
def ofChars? : List Char → Option Bytes
  | [] => some []
  | [_] => none
  | hi :: lo :: rest => do
    let h ← digitValue? hi
    let l ← digitValue? lo
    let tail ← ofChars? rest
    return UInt8.ofNat (16 * h + l) :: tail

/-- Reads a hexadecimal byte string. -/
def decode? (s : String) : Option Bytes :=
  ofChars? s.toList

end Hex

end LedgerClient
