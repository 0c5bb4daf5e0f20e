import LedgerClient.Discovery.Error
import LedgerClient.Message.Wire
import LedgerClient.Node.Endpoint

/-!
# Discovered peers

Reads the peers of a discovery answer: the organization from the serialized identity, the
address from the message by which the peer shows it is alive, ledger height and chaincodes
from the message about its state. Members of a channel must have published their state;
the peers near the answering one need not have. A list of peers is read as a whole or not
at all.
-/

namespace LedgerClient

/-- A peer that discovery has found; its name is the address it advertises. -/
structure DiscoveredPeer where
  name : String
  mspid : String
  host : String
  port : UInt16
  ledgerHeight : Option BlockNumber
  chaincodes : List InstalledChaincode
  deriving DecidableEq, Repr, Inhabited

/-- The host and port that an advertised address names. -/
def splitEndpoint (endpoint : String) : Except DiscoveryError (String × UInt16) :=
  match splitAddress? endpoint.toList with
  | some address => .ok address
  | none => .error (.invalidPeer endpoint "endpoint is not host:port")

namespace DiscoveredPeer

/-- The content of a peer's gossip message. -/
def gossip (peer : String) (e : GossipEnvelope) : Except DiscoveryError GossipContent :=
  match Wire.decode (α := GossipMessage) e.payload with
  | .ok message => .ok message.content
  | .error e => .error (.invalidPeer peer e.message)

/-- The address a peer advertises. -/
def endpointOf (mspid : String) (membership : Option GossipEnvelope) :
    Except DiscoveryError String := do
  match membership with
  | none => .error (.invalidPeer mspid "missing membership info")
  | some e =>
    match ← gossip mspid e with
    | .alive m => return m.membership.endpoint
    | _ => .error (.invalidPeer mspid "membership info is not an alive message")

/-- The ledger height and chaincodes a peer has published. -/
def stateOf (endpoint : String) (state : Option GossipEnvelope) (requireState : Bool) :
    Except DiscoveryError (Option BlockNumber × List InstalledChaincode) := do
  match state with
  | none =>
    if requireState then .error (.invalidPeer endpoint "missing state info")
    else return (none, [])
  | some e =>
    match ← gossip endpoint e with
    | .state { properties := some p, .. } => return (some ⟨p.ledgerHeight⟩, p.chaincodes)
    | .state { properties := none, .. } =>
      .error (.invalidPeer endpoint "missing ledger height")
    | _ => .error (.invalidPeer endpoint "state info is not a state message")

/-- Reads a peer. -/
def decode (requireState : Bool) (peer : DiscoveryPeer) : Except DiscoveryError DiscoveredPeer := do
  let identity : SerializedIdentity ← (Wire.decode peer.identity).mapError .wire
  let name ← endpointOf identity.mspid peer.membershipInfo
  let (host, port) ← splitEndpoint name
  let (ledgerHeight, chaincodes) ← stateOf name peer.stateInfo requireState
  return { name, mspid := identity.mspid, host, port, ledgerHeight, chaincodes }

/-- Reads lists of peers by key. -/
def decodeEntries (requireState : Bool) :
    List (String × Peers) → Except DiscoveryError (List (String × List DiscoveredPeer))
  | [] => .ok []
  | (key, peers) :: rest => do
    let decoded ← peers.peers.mapM (decode requireState)
    let others ← decodeEntries requireState rest
    return (key, decoded) :: others

/-- Reads the peers of each organization or group. -/
def decodeAll (requireState : Bool) (peers : SortedMap String Peers) :
    Except DiscoveryError (SortedMap String (List DiscoveredPeer)) := do
  return SortedMap.ofList (← decodeEntries requireState peers.entries)

end DiscoveredPeer

/-- Reads the peers of each organization. -/
def decodeMembers (requireState : Bool) (result : PeerMembershipResult) :
    Except DiscoveryError (SortedMap String (List DiscoveredPeer)) :=
  DiscoveredPeer.decodeAll requireState result.peersByOrg

/-- Whose endorsements a chaincode needs: groups of peers, and the layouts that say how many
of each group satisfy the policy. -/
structure EndorsementPlan where
  chaincode : String
  groups : SortedMap String (List DiscoveredPeer)
  layouts : List (SortedMap String UInt32)
  deriving DecidableEq, Repr, Inhabited

/-- Reads a plan; the answer must hold exactly one. -/
def decodePlan (result : ChaincodeQueryResult) : Except DiscoveryError EndorsementPlan :=
  match result.content with
  | [d] => do
    return {
      chaincode := d.chaincode
      groups := ← DiscoveredPeer.decodeAll true d.endorsersByGroups
      layouts := d.layouts.map Layout.quantitiesByGroup }
  | _ => .error .invalidLayouts

end LedgerClient
