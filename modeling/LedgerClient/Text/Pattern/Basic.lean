import LedgerClient.Text.Blank
import LedgerClient.Text.Pattern.Run
import LedgerClient.Text.Pattern.Tables

/-!
# Patterns

Regular patterns over characters and what they match. Matching computes, for a position of
the text, the list of all positions where a match that starts there can end. Repetition
needs no bound of its own: a text of `n` characters has `n + 1` positions, and once a
pattern has been repeated that often, further rounds reach no new position.
-/

namespace LedgerClient.Pattern

/-- A set of characters. -/
inductive CharClass where
  | none
  | range (low high : Nat)
  | runs (table : List Run)
  /-- Decimal digits, of all scripts or only ASCII. -/
  | digit (ascii : Bool)
  /-- White space. -/
  | space (ascii : Bool)
  /-- Letters, digits and connectors that make up words. -/
  | word (ascii : Bool)
  | union (a b : CharClass)
  | inter (a b : CharClass)
  | diff (a b : CharClass)
  | compl (a : CharClass)
  /-- The set with every character that differs from one of it in case only. -/
  | fold (a : CharClass)
  deriving DecidableEq, Repr, Inhabited

namespace CharClass

/-- Whether a code is an ASCII letter, digit or underscore. -/
def asciiWord (c : Nat) : Bool :=
  (0x30 ≤ c && c ≤ 0x39) || (0x41 ≤ c && c ≤ 0x5A) || c == 0x5F || (0x61 ≤ c && c ≤ 0x7A)

/-- Whether a code is in the set. -/
def has : CharClass → Nat → Bool
  | none, _ => false
  | range low high, c => low ≤ c && c ≤ high
  | runs table, c => table.any fun r => r.has c
  | digit ascii, c => if ascii then 0x30 ≤ c && c ≤ 0x39 else inRanges digitRanges c
  | space ascii, c => Text.isBlank (Char.ofNat c) && (!ascii || c < 0x80)
  | word ascii, c => if ascii then asciiWord c else inRanges wordRanges c
  | union a b, c => a.has c || b.has c
  | inter a b, c => a.has c && b.has c
  | diff a b, c => a.has c && !b.has c
  | compl a, c => !a.has c
  | fold a, c => (foldMates c).any a.has

/-- A single character. -/
def single (c : Char) : CharClass := range c.toNat c.toNat

/-- Characters in one of two sets but not in both. -/
def symDiff (a b : CharClass) : CharClass := (a.diff b).union (b.diff a)

/-- Every character. -/
def all : CharClass := range 0 0x10FFFF

end CharClass

/-- A condition on a position of a text. -/
inductive Assertion where
  | textStart
  | textEnd
  | lineStart (crlf : Bool)
  | lineEnd (crlf : Bool)
  | wordBoundary (ascii : Bool)
  | noWordBoundary (ascii : Bool)
  | wordStart (ascii : Bool)
  | wordEnd (ascii : Bool)
  | wordStartHalf (ascii : Bool)
  | wordEndHalf (ascii : Bool)
  deriving DecidableEq, Repr

/-- Whether the character at an index belongs to a word; there is none outside the text. -/
def wordAt (text : Array Char) (i : Nat) (ascii : Bool) : Bool :=
  match text[i]? with
  | some c => (CharClass.word ascii).has c.toNat
  | none => false

/-- Whether the character before a position belongs to a word. -/
def wordBefore (text : Array Char) (i : Nat) (ascii : Bool) : Bool :=
  if i = 0 then false else wordAt text (i - 1) ascii

/-- The character before a position. -/
def charBefore (text : Array Char) (i : Nat) : Option Char :=
  if i = 0 then none else text[i - 1]?

/-- Whether a condition holds at a position. -/
def Assertion.holds (a : Assertion) (text : Array Char) (i : Nat) : Bool :=
  match a with
  | .textStart => i == 0
  | .textEnd => i == text.size
  | .lineStart crlf =>
    i == 0 || charBefore text i == some '\n'
      || (crlf && charBefore text i == some '\r' && text[i]? != some '\n')
  | .lineEnd crlf =>
    i == text.size || (crlf && text[i]? == some '\r')
      || (text[i]? == some '\n' && !(crlf && charBefore text i == some '\r'))
  | .wordBoundary ascii => wordBefore text i ascii != wordAt text i ascii
  | .noWordBoundary ascii => wordBefore text i ascii == wordAt text i ascii
  | .wordStart ascii => !wordBefore text i ascii && wordAt text i ascii
  | .wordEnd ascii => wordBefore text i ascii && !wordAt text i ascii
  | .wordStartHalf ascii => !wordBefore text i ascii
  | .wordEndHalf ascii => !wordAt text i ascii

/-- A pattern. -/
inductive Expr where
  | empty
  | one (c : CharClass)
  | assertion (a : Assertion)
  | seq (a b : Expr)
  | alt (a b : Expr)
  /-- At least `low` and at most `high` times, or any number from `low` on. -/
  | times (low : Nat) (high : Option Nat) (a : Expr)
  deriving DecidableEq, Repr, Inhabited

/-- Applies a step to a set of positions `count` times. -/
def stepTimes (step : List Nat → List Nat) : (count : Nat) → List Nat → List Nat
  | 0, positions => positions
  | count + 1, positions => stepTimes step count (step positions)

/-- All positions reached by applying a step up to `count` times. -/
def reachWithin (step : List Nat → List Nat) : (count : Nat) → List Nat → List Nat
  | 0, positions => positions
  | count + 1, positions => reachWithin step count (positions ++ step positions).eraseDups

/-- Where a match that starts at a position can end. -/
def Expr.ends (text : Array Char) : Expr → Nat → List Nat
  | .empty, i => [i]
  | .one c, i =>
    match text[i]? with
    | some ch => if c.has ch.toNat then [i + 1] else []
    | none => []
  | .assertion a, i => if a.holds text i then [i] else []
  | .seq a b, i => ((ends text a i).flatMap (ends text b)).eraseDups
  | .alt a b, i => (ends text a i ++ ends text b i).eraseDups
  | .times low high a, i =>
    let bound := text.size + 1
    let step (positions : List Nat) := (positions.flatMap (ends text a)).eraseDups
    let required := stepTimes step (min low bound) [i]
    match high with
    | none => reachWithin step bound required
    | some high => reachWithin step (min (high - low) bound) required

/-- Whether the pattern matches some part of a text. -/
def Expr.isMatch (p : Expr) (text : String) : Bool :=
  let chars := text.toList.toArray
  (List.range (chars.size + 1)).any fun i => !(p.ends chars i).isEmpty

end LedgerClient.Pattern
