/-!
# Runs of codes

Sets of characters are tabulated as runs of codes at a fixed distance: one for characters
that stand side by side, two for the many letters whose capitals and small letters take
turns.
-/

namespace LedgerClient.Pattern

/-- The codes from `first` to `last` at a distance of `step`. -/
structure Run where
  first : Nat
  last : Nat
  step : Nat
  deriving DecidableEq, Repr, Inhabited

/-- Whether a code belongs to a run. -/
def Run.has (r : Run) (c : Nat) : Bool :=
  r.first ≤ c && c ≤ r.last && (c - r.first) % r.step == 0

end LedgerClient.Pattern
