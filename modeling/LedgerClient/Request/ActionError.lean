import LedgerClient.Crypto.Identity
import LedgerClient.Node.ServiceError

/-!
# Errors of requests

Why a request could not be built, signed or sent. Errors of the layers below are kept as
they are.
-/

namespace LedgerClient

/-- A peer that did not endorse, and why. -/
structure PeerFailure where
  peer : String
  error : ServiceError
  deriving DecidableEq, Repr

/-- Why a request failed. -/
inductive ActionError where
  | missingParameter (name : String)
  | notBuilt (action : String)
  | notSigned (action : String)
  | noEndorsements
  | endorsementFailed (reason : String) (failures : List PeerFailure)
  | discovery (reason : String)
  | service (error : ServiceError)
  | wire (error : DecodeError)
  | crypto (error : CryptoError)
  deriving DecidableEq, Repr

/-- The wording of an error. -/
def ActionError.message : ActionError → String
  | .missingParameter name => s!"Missing {name} parameter"
  | .notBuilt action => s!"The {action} has not been built"
  | .notSigned action => s!"The {action} has not been signed"
  | .noEndorsements => "No valid endorsements found"
  | .endorsementFailed reason _ => s!"Endorsement has failed: {reason}"
  | .discovery reason => s!"Discovery failed: {reason}"
  | .service e => e.message
  | .wire e => e.message
  | .crypto e => e.message

end LedgerClient
