import LedgerClient.Data.SortedMap
import LedgerClient.Node.Msp
import LedgerClient.Node.Node

/-!
# Channels

What a client knows of a channel: the peers that endorse, the orderers that take
transactions, and the membership service providers, each under its name. A name is taken
only once unless the newcomer is to replace the old one.
-/

namespace LedgerClient

/-- What a client knows of a channel. -/
structure Channel where
  name : String
  endorsers : SortedMap String PeerId := ∅
  committers : SortedMap String OrdererId := ∅
  msps : SortedMap String MspInfo := ∅
  deriving DecidableEq, Repr

namespace Channel

/-- A channel without nodes; it needs a name. -/
def new (name : String) : Except ServiceError Channel :=
  if name.isEmpty then .error (.missingParameter "channel name") else .ok { name }

/-- Adds a peer under its name. -/
def addEndorser (name : String) (peer : PeerId) (replace : Bool) (c : Channel) :
    Except ServiceError Channel :=
  if c.endorsers.contains name && !replace then .error (.duplicate .peer name)
  else .ok { c with endorsers := c.endorsers.insert name peer }

/-- Adds an orderer under its name. -/
def addCommitter (name : String) (orderer : OrdererId) (replace : Bool) (c : Channel) :
    Except ServiceError Channel :=
  if c.committers.contains name && !replace then .error (.duplicate .orderer name)
  else .ok { c with committers := c.committers.insert name orderer }

/-- Adds a membership service provider under its id. -/
def addMsp (msp : MspInfo) (replace : Bool) (c : Channel) : Except ServiceError Channel :=
  if c.msps.contains msp.id && !replace then .error (.duplicate .msp msp.id)
  else .ok { c with msps := c.msps.insert msp.id msp }

/-- Removes a peer, and tells whether there was one of the name. -/
def removeEndorser (name : String) (c : Channel) : Bool × Channel :=
  (c.endorsers.contains name, { c with endorsers := c.endorsers.erase name })

/-- Removes an orderer, and tells whether there was one of the name. -/
def removeCommitter (name : String) (c : Channel) : Bool × Channel :=
  (c.committers.contains name, { c with committers := c.committers.erase name })

end Channel

end LedgerClient
