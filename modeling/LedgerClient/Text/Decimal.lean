/-!
# Decimal numerals

Unsigned decimal numerals as configuration files, urls and block ranges spell them: an
optional plus sign, then at least one digit, leading zeros allowed, within a bound.
-/

namespace LedgerClient.Decimal

/-- The value of an ASCII digit. -/
def digit? (c : Char) : Option Nat :=
  if c.isDigit then some (c.toNat - '0'.toNat) else none

/-- Reads on from the value `acc` of the digits before. -/
def readOn (acc : Nat) : List Char → Option Nat
  | [] => some acc
  | c :: rest => do
    let d ← digit? c
    readOn (10 * acc + d) rest

/-- The value of a nonempty run of digits. -/
def ofDigits? : List Char → Option Nat
  | [] => none
  | cs => readOn 0 cs

/-- The value of a numeral with an optional plus sign. -/
def ofChars? : List Char → Option Nat
  | '+' :: rest => ofDigits? rest
  | cs => ofDigits? cs

/-- The value of a numeral that is below `bound`. -/
def parse? (bound : Nat) (s : String) : Option Nat := do
  let n ← ofChars? s.toList
  if n < bound then some n else none

/-- The value of a numeral that fits in 64 bits. -/
def parseU64? (s : String) : Option UInt64 :=
  (parse? UInt64.size s).map UInt64.ofNat

/-- The value of a numeral that fits in 16 bits. -/
def parseU16? (s : String) : Option UInt16 :=
  (parse? UInt16.size s).map UInt16.ofNat

end LedgerClient.Decimal
