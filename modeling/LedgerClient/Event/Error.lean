import LedgerClient.Ledger.BlockNumber
import LedgerClient.Request.ActionError

/-!
# Errors of event hubs

Why a hub refused a request or a listener.
-/

namespace LedgerClient

/-- Why an event hub refused something. -/
inductive EventHubError where
  | missingParameter (name : String)
  /-- The first block lies behind the last one. -/
  | invalidRange (start stop : BlockNumber)
  /-- The pattern for event names is not well formed. -/
  | invalidPattern (pattern : String)
  | action (error : ActionError)
  | service (error : ServiceError)
  | wire (error : DecodeError)
  deriving DecidableEq, Repr

/-- The wording of an error. -/
def EventHubError.message : EventHubError → String
  | .missingParameter name => s!"Missing {name} parameter"
  | .invalidRange start stop =>
    s!"\"startBlock\" ({start}) must not be greater than \"endBlock\" ({stop})"
  | .invalidPattern pattern => s!"Invalid chaincode event name pattern: {pattern}"
  | .action e => e.message
  | .service e => e.message
  | .wire e => e.message

end LedgerClient
