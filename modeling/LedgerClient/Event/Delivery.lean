import LedgerClient.Event.Listener
import LedgerClient.Ledger.DecodedBlock
import LedgerClient.Node.ConnectionInfo

/-!
# Deliveries

What listeners are told: events about blocks, and at most once that the hub has shut down
and why.
-/

namespace LedgerClient

/-- What a listener is told about a block. -/
structure BlockEvent where
  hub : String
  blockNumber : BlockNumber
  block : Option DecodedBlock := none
  filteredBlock : Option FilteredBlock := none
  privateData : Option PrivateDataMap := none
  transactionId : Option String := none
  transactionStatus : Option String := none
  chaincodeEvents : List ChaincodeEvent := []
  endBlockReceived : Bool := false
  deriving DecidableEq, Repr

/-- The event that tells a listener that its window has ended. -/
def BlockEvent.endBlock (hub : String) (number : BlockNumber) : BlockEvent :=
  { hub, blockNumber := number, endBlockReceived := true }

/-- Why a hub shut down. -/
inductive TerminationKind where
  | closed
  | endBlockReached
  | newestBlockReached
  | streamEnded
  | streamError
  | unexpectedStatus
  | decodeError
  | setupTimeout
  | setupFailed
  deriving DecidableEq, Repr

namespace TerminationKind

/-- All reasons, the orderly ones first. -/
def all : List TerminationKind :=
  [.closed, .endBlockReached, .newestBlockReached, .streamEnded, .streamError,
    .unexpectedStatus, .decodeError, .setupTimeout, .setupFailed]

/-- Whether the hub shut down in good order. -/
def isClean : TerminationKind → Bool
  | .closed | .endBlockReached | .newestBlockReached => true
  | _ => false

/-- The word for the reason. -/
def label : TerminationKind → String
  | .closed => "closed"
  | .endBlockReached => "end_block_reached"
  | .newestBlockReached => "newest_block_reached"
  | .streamEnded => "stream_ended"
  | .streamError => "stream_error"
  | .unexpectedStatus => "unexpected_status"
  | .decodeError => "decode_error"
  | .setupTimeout => "setup_timeout"
  | .setupFailed => "setup_failed"

end TerminationKind

/-- The end of a hub's service to its listeners. -/
structure Termination where
  hub : String
  kind : TerminationKind
  message : String
  connection : Option ConnectionInfo := none
  lastBlockNumber : Option BlockNumber := none
  deriving DecidableEq, Repr

namespace Termination

/-- The hub was closed by its owner. -/
def closed (hub : String) : Termination :=
  { hub, kind := .closed, message := "EventHub has been shutdown by \"close()\" call" }

/-- The last block that was asked for has been dispatched. -/
def endBlock (hub : String) (number : BlockNumber) : Termination :=
  { hub
    kind := .endBlockReached
    message := s!"Shutdown due to end block number has been seen: {number}" }

/-- A block could not be decoded. -/
def undecodable (hub : String) (number : BlockNumber) (e : DecodeError) : Termination :=
  { hub, kind := .decodeError, message := s!"Failed to decode block {number}: {e.message}" }

/-- The service has delivered up to the newest block. -/
def newestBlock (hub : String) : Termination :=
  { hub, kind := .newestBlockReached, message := "Newest block received" }

/-- The service has confirmed that the blocks asked for are delivered. -/
def delivered (hub : String) (status : Status) : Termination :=
  { hub
    kind := .endBlockReached
    message := s!"Requested blocks delivered, status:{status.label}" }

/-- The service sent a status where none was due. -/
def unexpectedStatus (hub : String) (status : Status) : Termination :=
  { hub
    kind := .unexpectedStatus
    message := s!"Event stream has received an unexpected status message. status:{status.label}" }

/-- The stream has ended. -/
def streamEnded (hub : String) : Termination :=
  { hub, kind := .streamEnded, message := "Event stream has ended" }

/-- The stream has failed. -/
def streamError (hub reason : String) : Termination :=
  { hub, kind := .streamError, message := s!"Event stream error: {reason}" }

/-- No event source could be started; the last one failed with `error`. -/
def setup (hub : String) (error : ServiceError) : Termination :=
  if error.isTimeout then
    { hub
      kind := .setupTimeout
      message := "Event service timed out - Unable to start listening"
      connection := error.connection? }
  else
    { hub, kind := .setupFailed, message := error.message, connection := error.connection? }

end Termination

/-- What a listener is told. -/
inductive Notice where
  | event (event : BlockEvent)
  | terminated (termination : Termination)
  deriving DecidableEq, Repr

/-- A notice on its way to a listener. -/
structure Delivery where
  handle : ListenerHandle
  notice : Notice
  deriving DecidableEq, Repr

end LedgerClient
