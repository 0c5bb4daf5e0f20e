import LedgerClient.Text.Pattern.Basic

/-!
# The size of patterns

Counted repetitions make short patterns large. The size of a pattern is a measure of the
automaton that it makes when all repetitions are written out, in bytes: what a state takes,
and what each piece of a set of characters takes beyond ASCII, where a character is several
bytes long. Patterns above a limit are not accepted.
-/

namespace LedgerClient.Pattern

/-- How many pieces a set has beyond ASCII, at most. -/
def CharClass.pieces : CharClass → Nat
  | none => 0
  | range low high => if high < 0x80 then 0 else if high < low + 0x100 then 1 else 8
  | runs table => (table.map fun r => 1 + if r.step = 1 then 0 else (r.last - r.first) / r.step).sum
  | digit ascii => if ascii then 0 else digitRanges.length
  | space ascii => if ascii then 0 else 10
  | word ascii => if ascii then 0 else wordRanges.length
  | union a b | inter a b | diff a b => a.pieces + b.pieces
  | compl a => a.pieces + 8
  | fold a => 2 * a.pieces

/-- What a state takes. -/
def stateSize : Nat := 32

/-- What a piece of a set takes. -/
def pieceSize : Nat := 64

namespace Expr

/-- Whether a pattern matches nothing but the empty text. -/
def isZeroWidth : Expr → Bool
  | empty | assertion _ => true
  | one _ => false
  | seq a b | alt a b => a.isZeroWidth && b.isZeroWidth
  | times _ _ a => a.isZeroWidth

/-- The size of a pattern. Repeating what matches the empty text only adds nothing. -/
def size : Expr → Nat
  | empty | assertion _ => stateSize
  | one c => stateSize + pieceSize * c.pieces
  | seq a b => a.size + b.size
  | alt a b => stateSize + a.size + b.size
  | times low high a =>
    if a.isZeroWidth then a.size
    else
      match high with
      | none => stateSize + max 1 low * a.size
      | some high => low * a.size + (high - low) * (stateSize + a.size)

/-- The largest size that is accepted: ten mebibytes. -/
def sizeLimit : Nat := 10 * 1024 * 1024

end Expr

end LedgerClient.Pattern
