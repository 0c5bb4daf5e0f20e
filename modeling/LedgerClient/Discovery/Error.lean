import LedgerClient.Request.ActionError

/-!
# Errors of discovery

Why a discovery failed. Requests that go through a discovery report its errors as their
own: those of the layers below as they are, the others by their wording.
-/

namespace LedgerClient

/-- Why a discovery failed. -/
inductive DiscoveryError where
  | missingParameter (name : String)
  | noResults
  | remote (content : String)
  | invalidLayouts
  | invalidPeer (peer reason : String)
  | action (error : ActionError)
  | service (error : ServiceError)
  | wire (error : DecodeError)
  deriving DecidableEq, Repr

namespace DiscoveryError

/-- The wording of an error. -/
def message : DiscoveryError → String
  | missingParameter name => s!"Missing {name} parameter"
  | noResults => "No discovery results found"
  | remote content => s!"Discovery service returned error: {content}"
  | invalidLayouts => "Plan layouts are invalid"
  | invalidPeer peer reason => s!"Invalid discovered peer {peer}: {reason}"
  | action e => e.message
  | service e => e.message
  | wire e => e.message

/-- The error as a request that used the discovery reports it. -/
def toActionError : DiscoveryError → ActionError
  | action e => e
  | service e => .service e
  | wire e => .wire e
  | e => .discovery e.message

end DiscoveryError

end LedgerClient
