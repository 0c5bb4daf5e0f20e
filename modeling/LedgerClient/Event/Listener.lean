import LedgerClient.Event.Error
import LedgerClient.Message.Ledger
import LedgerClient.Text.Pattern.Parser

/-!
# Listeners

What a listener waits for: blocks, the outcome of a transaction, or the events of a
chaincode, within an optional window of blocks. A listener for one particular transaction
is done after its first notification unless it says otherwise.

## Main results

* `EventListener.start_le_end`: a listener's window is never upside down.
-/

namespace LedgerClient

/-- The number of a registration; numbers are never used twice. -/
structure ListenerHandle where
  id : Nat
  deriving DecidableEq, Repr, Inhabited

/-- The handle as users see it. -/
def ListenerHandle.label (h : ListenerHandle) : String := s!"listener-{h.id}"

/-- What a listener waits for. -/
inductive ListenerKind where
  | block
  | tx
  | chaincode
  deriving DecidableEq, Repr

/-- The word for the kind. -/
def ListenerKind.label : ListenerKind → String
  | .block => "block"
  | .tx => "tx"
  | .chaincode => "chaincode"

/-- Which transactions a listener waits for. -/
inductive TxMatch where
  | all
  | id (txId : String)
  deriving DecidableEq, Repr

namespace TxMatch

/-- Reads a transaction id, or the word `all` in any case. -/
def parse (s : String) : Except EventHubError TxMatch :=
  if s.isEmpty then .error (.missingParameter "txid")
  else if Text.lower s = "all" then .ok .all
  else .ok (.id s)

/-- Whether a transaction is waited for. -/
def matches? (m : TxMatch) (txId : String) : Bool :=
  match m with
  | .all => true
  | .id wanted => wanted == txId

end TxMatch

/-- Which names of chaincode events a listener waits for. -/
inductive EventNameMatch where
  | exact (name : String)
  | pattern (source : String) (expr : Pattern.Expr)
  deriving DecidableEq, Repr

namespace EventNameMatch

/-- Reads a pattern for names. -/
def ofPattern (source : String) : Except EventHubError EventNameMatch :=
  match Pattern.parse? source with
  | some expr => .ok (.pattern source expr)
  | none => .error (.invalidPattern source)

/-- Whether a name is waited for; a pattern may match any part of it. -/
def matches? (m : EventNameMatch) (name : String) : Bool :=
  match m with
  | .exact wanted => wanted == name
  | .pattern _ expr => expr.isMatch name

/-- The name, or the pattern between slashes. -/
def label : EventNameMatch → String
  | .exact name => name
  | .pattern source _ => s!"/{source}/"

end EventNameMatch

/-- What a listener waits for, in full. -/
inductive ListenerFilter where
  | block
  | tx (transactions : TxMatch)
  | chaincode (chaincodeId : String) (eventName : EventNameMatch)
  deriving DecidableEq, Repr

namespace ListenerFilter

/-- The kind of listener. -/
def kind : ListenerFilter → ListenerKind
  | .block => .block
  | .tx _ => .tx
  | .chaincode _ _ => .chaincode

/-- The filter for a transaction id or all transactions. -/
def ofTx (txId : String) : Except EventHubError ListenerFilter :=
  (TxMatch.parse txId).map .tx

/-- The filter for events of a chaincode, which must be named. -/
def ofChaincode (chaincodeId : String) (eventName : EventNameMatch) :
    Except EventHubError ListenerFilter :=
  if chaincodeId.isEmpty then .error (.missingParameter "chaincodeId")
  else .ok (.chaincode chaincodeId eventName)

/-- Whether one notification is all that a listener waits for, unless it says otherwise. -/
def defaultUnregister : ListenerFilter → Bool
  | .tx (.id _) => true
  | _ => false

/-- Whether a chaincode event is waited for. -/
def matchesChaincodeEvent (f : ListenerFilter) (e : ChaincodeEvent) : Bool :=
  match f with
  | .chaincode chaincodeId eventName =>
    chaincodeId == e.chaincodeId && eventName.matches? e.eventName
  | _ => false

/-- Whether a transaction is waited for. -/
def matchesTransaction (f : ListenerFilter) (txId : String) : Bool :=
  match f with
  | .tx transactions => transactions.matches? txId
  | _ => false

end ListenerFilter

/-- The wishes a listener is registered with. -/
structure ListenerOptions where
  startBlock : Option BlockNumber := none
  endBlock : Option BlockNumber := none
  unregister : Option Bool := none
  deriving DecidableEq, Repr, Inhabited

/-- A filter and the window of blocks it applies to. -/
structure EventListener where
  filter : ListenerFilter
  startBlock : Option BlockNumber
  endBlock : Option BlockNumber
  /-- Whether the first notification is also the last one. -/
  unregister : Bool
  deriving DecidableEq, Repr

namespace EventListener

/-- A listener for a filter; its window must not be upside down. -/
def new (filter : ListenerFilter) (options : ListenerOptions) :
    Except EventHubError EventListener :=
  let listener : EventListener :=
    { filter
      startBlock := options.startBlock
      endBlock := options.endBlock
      unregister := options.unregister.getD filter.defaultUnregister }
  match options.startBlock, options.endBlock with
  | some start, some stop =>
    if stop < start then .error (.invalidRange start stop) else .ok listener
  | _, _ => .ok listener

/-- A listener's window is never upside down. -/
theorem start_le_end {filter : ListenerFilter} {options : ListenerOptions} {l : EventListener}
    {start stop : BlockNumber} (h : new filter options = .ok l)
    (hs : l.startBlock = some start) (he : l.endBlock = some stop) : ¬ stop < start := by
  obtain ⟨s, e, u⟩ := options
  cases s <;> cases e <;> simp only [new] at h <;> try (cases h; simp_all)
  split at h
  · cases h
  · cases h
    simp_all

/-- The kind of listener. -/
def kind (l : EventListener) : ListenerKind := l.filter.kind

/-- Whether a block lies in the window. -/
def inRange (l : EventListener) (block : BlockNumber) : Bool :=
  l.startBlock.all (· ≤ block) && l.endBlock.all (block ≤ ·)

/-- Whether a block is the last one of the window. -/
def isEndBlock (l : EventListener) (block : BlockNumber) : Bool :=
  l.endBlock == some block

end EventListener

end LedgerClient
