import LedgerClient.Event.Error
import LedgerClient.Message.Delivery

/-!
# Planning a stream

The range of blocks to ask a delivery service for, from the first and last positions that
the user wants. Positions behind the last seen block are filled in. A stream starts at the
newest block unless told otherwise; a stream without an end waits for blocks to come, one
with an end fails if they are not there.
-/

namespace LedgerClient

/-- The range to ask for, and the end that the hub watches for itself. -/
structure SeekPlan where
  info : SeekInfo
  stop : Option BlockPosition
  deriving DecidableEq, Repr

/-- A resolved position as the delivery service understands it. -/
def BlockPosition.seek : BlockPosition → SeekPosition
  | .oldest => .oldest
  | .number n => .specified n.value
  | .newest | .lastSeen => .newest

/-- The plan for a stream from one position to another. -/
def SeekPlan.make (start stop : Option BlockPosition) (last : Option BlockNumber) :
    Except EventHubError SeekPlan :=
  let start := (start.getD .newest).resolve last
  let stop := stop.map (·.resolve last)
  let info : SeekInfo :=
    match stop with
    | none =>
      { start := start.seek
        stop := .specified BlockNumber.max.value
        behavior := .blockUntilReady }
    | some position =>
      { start := start.seek, stop := position.seek, behavior := .failIfNotReady }
  match start.number?, stop.bind BlockPosition.number? with
  | some s, some e => if e < s then .error (.invalidRange s e) else .ok { info, stop }
  | _, _ => .ok { info, stop }

end LedgerClient
