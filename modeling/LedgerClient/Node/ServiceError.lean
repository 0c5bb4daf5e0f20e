import LedgerClient.Node.ConnectionInfo

/-!
# Errors of services

What can go wrong between the client and one remote service. Every error that concerns a
particular node carries its connection details.
-/

namespace LedgerClient

/-- What kind of thing a name is already taken for. -/
inductive RegisteredKind where
  | peer
  | orderer
  | msp
  deriving DecidableEq, Repr

/-- The word for the kind in messages. -/
def RegisteredKind.label : RegisteredKind → String
  | .peer => "Peer"
  | .orderer => "Orderer"
  | .msp => "MSP"

/-- What the client was doing when a service failed. -/
inductive Operation where
  | connect
  | waitForReady
  | sendProposal
  | sendBroadcast
  | deliver
  | sendDiscovery
  | startEventService
  deriving DecidableEq, Repr

/-- The word for the operation in messages. -/
def Operation.label : Operation → String
  | .connect => "connect"
  | .waitForReady => "waitForReady"
  | .sendProposal => "sendProposal"
  | .sendBroadcast => "sendBroadcast"
  | .deliver => "deliver"
  | .sendDiscovery => "sendDiscovery"
  | .startEventService => "startEventService"

/-- Why a service could not be used. -/
inductive ServiceError where
  | missingParameter (name : String)
  | invalidUrl (url : String)
  | alreadyConnected (connection : ConnectionInfo)
  | notConnected (connection : ConnectionInfo)
  | connectFailed (connection : ConnectionInfo) (reason : String)
  | timeout (connection : ConnectionInfo) (operation : Operation) (limit : Nat)
  | transport (connection : ConnectionInfo) (operation : Operation) (reason : String)
  | remote (connection : ConnectionInfo) (status message : String)
  | duplicate (kind : RegisteredKind) (name : String)
  deriving DecidableEq, Repr

namespace ServiceError

/-- The wording of an error. -/
def message : ServiceError → String
  | missingParameter name => s!"Missing {name} parameter"
  | invalidUrl url => s!"Invalid url: {url}"
  | alreadyConnected c => s!"This service endpoint {c.label} is already connected"
  | notConnected c => s!"Service endpoint {c.label} is not connected"
  | connectFailed c reason => s!"Failed to connect to {c.label}: {reason}"
  | timeout c operation limit =>
    s!"REQUEST_TIMEOUT: {operation.label} to {c.label} timed out after {limit}ms"
  | transport c operation reason => s!"{operation.label} to {c.label} failed: {reason}"
  | remote c status text => s!"{c.label} returned status {status}: {text}"
  | duplicate kind name => s!"{kind.label} {name} already exists"

/-- The node that the error concerns. -/
def connection? : ServiceError → Option ConnectionInfo
  | alreadyConnected c | notConnected c | connectFailed c _ | timeout c _ _
  | transport c _ _ | remote c _ _ => some c
  | missingParameter _ | invalidUrl _ | duplicate _ _ => none

/-- Whether the service did not answer in time. -/
def isTimeout : ServiceError → Bool
  | timeout _ _ _ => true
  | _ => false

end ServiceError

end LedgerClient
