import LedgerClient.Ledger.BlockNumber
import LedgerClient.Message.Gossip
import LedgerClient.Node.Link

/-!
# Nodes

The nodes a client talks to: peers, which endorse proposals and of which discovery knows
the ledger height and chaincodes; orderers; event sources; and discovery services. A node
is a link with what the client knows of the node besides.

An event source remembers the connector it was last told to use, so that it can be
connected again after a hub has let it go.
-/

namespace LedgerClient

/-- The kinds of nodes. -/
inductive NodeKind where
  | peer
  | orderer
  | eventer
  | discoverer
  deriving DecidableEq, Repr

/-- The service that a kind of node offers. -/
def NodeKind.service : NodeKind → ServiceKind
  | .peer => .endorser
  | .orderer => .broadcast
  | .eventer => .eventer
  | .discoverer => .discovery

/-- A node of a given kind. -/
structure NodeId (k : NodeKind) where
  index : Nat
  deriving DecidableEq, Repr, Inhabited

abbrev PeerId := NodeId .peer

abbrev OrdererId := NodeId .orderer

abbrev EventerId := NodeId .eventer

abbrev DiscovererId := NodeId .discoverer

/-- A peer, and what discovery has found out about it. -/
structure Peer (γ : Type) where
  link : Link γ
  ledgerHeight : Option BlockNumber := none
  chaincodes : List InstalledChaincode := []

namespace Peer

variable {γ : Type}

/-- Keeps what discovery found out. -/
def setDiscoveredState (height : BlockNumber) (chaincodes : List InstalledChaincode)
    (p : Peer γ) : Peer γ :=
  { p with ledgerHeight := some height, chaincodes }

/-- Whether a chaincode is known to be installed. -/
def hasChaincode (p : Peer γ) (name : String) : Bool :=
  p.chaincodes.any fun c => c.name == name

end Peer

/-- An event source; `κ` names connectors. -/
structure Eventer (γ κ : Type) where
  link : Link γ
  connector : Option κ := none

namespace Eventer

variable {σ γ κ : Type}

/-- Connects through a connector, which is remembered whether connecting succeeds or not. -/
def connect (transport : κ → Transport σ γ) (endpoint : Endpoint) (connector : κ)
    (v : Eventer γ κ) (s : σ) : Except ServiceError Unit × Eventer γ κ × σ :=
  let (result, link, s) := v.link.connect (transport connector) endpoint s
  (result, { link, connector := some connector }, s)

/-- Connects again to where the source was connected last, if it is not connected. -/
def ensureConnected (transport : κ → Transport σ γ) (v : Eventer γ κ) (s : σ) :
    Except ServiceError Unit × Eventer γ κ × σ :=
  if v.link.isConnected then (.ok (), v, s)
  else
    match v.link.endpoint, v.connector with
    | some endpoint, some connector =>
      let (result, link, s) := v.link.connect (transport connector) endpoint s
      (result, { v with link }, s)
    | _, _ => (.error (.notConnected v.link.connectionInfo), v, s)

end Eventer

end LedgerClient
