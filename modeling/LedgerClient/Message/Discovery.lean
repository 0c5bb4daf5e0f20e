import LedgerClient.Message.Gossip

/-!
# Discovery messages

The questions a discovery service answers about a channel, and its answers: the
membership service providers and orderers of the channel's configuration, the peers that
are members, and the plans that say whose endorsements a chaincode needs.
-/

namespace LedgerClient

/-- Who asks a discovery service. -/
structure AuthInfo where
  clientIdentity : Bytes := []
  clientTlsCertHash : Bytes := []
  deriving DecidableEq, Repr, Inhabited

def AuthInfo.codec : Codec AuthInfo :=
  (Codec.bytes.pair Codec.bytes).iso
    (fun (clientIdentity, clientTlsCertHash) => ⟨clientIdentity, clientTlsCertHash⟩)
    (fun a => (a.clientIdentity, a.clientTlsCertHash))

/-- A chaincode, and the private collections an invocation touches. -/
structure ChaincodeCall where
  name : String := ""
  collectionNames : List String := []
  noPrivateReads : Bool := false
  deriving DecidableEq, Repr, Inhabited

def ChaincodeCall.codec : Codec ChaincodeCall :=
  (Codec.text.pair <| (Codec.list Codec.text).pair Codec.bool).iso
    (fun (name, collectionNames, noPrivateReads) => ⟨name, collectionNames, noPrivateReads⟩)
    (fun c => (c.name, c.collectionNames, c.noPrivateReads))

/-- The chaincodes that an invocation involves. -/
structure ChaincodeInterest where
  chaincodes : List ChaincodeCall := []
  deriving DecidableEq, Repr, Inhabited

def ChaincodeInterest.codec : Codec ChaincodeInterest :=
  (Codec.list ChaincodeCall.codec).iso (⟨·⟩) ChaincodeInterest.chaincodes

/-- What a query asks about. -/
inductive QueryKind where
  | config
  | peers
  | localPeers
  | chaincodes (interests : List ChaincodeInterest)
  deriving DecidableEq, Repr, Inhabited

namespace QueryKind

def variants : List (Codec.Variant QueryKind) :=
  [⟨fun () => .config, fun | .config => some () | _ => none, .unit⟩,
    ⟨fun () => .peers, fun | .peers => some () | _ => none, .unit⟩,
    ⟨fun () => .localPeers, fun | .localPeers => some () | _ => none, .unit⟩,
    ⟨.chaincodes, fun | .chaincodes i => some i | _ => none,
      .list ChaincodeInterest.codec⟩]

def codec : Codec QueryKind := .choice variants

end QueryKind

/-- A query; a query about the answering peer itself has an empty channel name. -/
structure Query where
  channel : String := ""
  query : QueryKind
  deriving DecidableEq, Repr, Inhabited

def Query.codec : Codec Query :=
  (Codec.text.pair QueryKind.codec).iso
    (fun (channel, query) => ⟨channel, query⟩)
    (fun q => (q.channel, q.query))

/-- A list of queries from one client. -/
structure DiscoveryRequest where
  authentication : Option AuthInfo := none
  queries : List Query := []
  deriving DecidableEq, Repr, Inhabited

def DiscoveryRequest.codec : Codec DiscoveryRequest :=
  ((Codec.option AuthInfo.codec).pair (Codec.list Query.codec)).iso
    (fun (authentication, queries) => ⟨authentication, queries⟩)
    (fun d => (d.authentication, d.queries))

/-- An encoded request and the signature over it. -/
structure SignedRequest where
  payload : Bytes := []
  signature : Bytes := []
  deriving DecidableEq, Repr, Inhabited

def SignedRequest.codec : Codec SignedRequest :=
  (Codec.bytes.pair Codec.bytes).iso
    (fun (payload, signature) => ⟨payload, signature⟩)
    (fun s => (s.payload, s.signature))

/-- The address of an orderer. -/
structure OrdererEndpoint where
  host : String := ""
  port : UInt16 := 0
  deriving DecidableEq, Repr, Inhabited

def OrdererEndpoint.codec : Codec OrdererEndpoint :=
  (Codec.text.pair Codec.u16).iso
    (fun (host, port) => ⟨host, port⟩)
    (fun o => (o.host, o.port))

/-- The addresses of the orderers of one organization. -/
structure Endpoints where
  endpoint : List OrdererEndpoint := []
  deriving DecidableEq, Repr, Inhabited

def Endpoints.codec : Codec Endpoints :=
  (Codec.list OrdererEndpoint.codec).iso (⟨·⟩) Endpoints.endpoint

/-- A channel's membership service providers and orderers, by MSP id. -/
structure ConfigResult where
  msps : SortedMap String MspConfig := ∅
  orderers : SortedMap String Endpoints := ∅
  deriving DecidableEq, Repr, Inhabited

def ConfigResult.codec : Codec ConfigResult :=
  ((Codec.sortedMap Codec.text MspConfig.codec).pair (Codec.sortedMap Codec.text
    Endpoints.codec)).iso
    (fun (msps, orderers) => ⟨msps, orderers⟩)
    (fun c => (c.msps, c.orderers))

/-- A peer as gossip knows it; the state is unknown for peers outside the channel. -/
structure DiscoveryPeer where
  stateInfo : Option GossipEnvelope := none
  membershipInfo : Option GossipEnvelope := none
  identity : Bytes := []
  deriving DecidableEq, Repr, Inhabited

def DiscoveryPeer.codec : Codec DiscoveryPeer :=
  ((Codec.option GossipEnvelope.codec).pair <| (Codec.option GossipEnvelope.codec).pair
    Codec.bytes).iso
    (fun (stateInfo, membershipInfo, identity) => ⟨stateInfo, membershipInfo, identity⟩)
    (fun d => (d.stateInfo, d.membershipInfo, d.identity))

/-- A list of peers. -/
structure Peers where
  peers : List DiscoveryPeer := []
  deriving DecidableEq, Repr, Inhabited

def Peers.codec : Codec Peers :=
  (Codec.list DiscoveryPeer.codec).iso (⟨·⟩) Peers.peers

/-- Peers by organization. -/
structure PeerMembershipResult where
  peersByOrg : SortedMap String Peers := ∅
  deriving DecidableEq, Repr, Inhabited

def PeerMembershipResult.codec : Codec PeerMembershipResult :=
  (Codec.sortedMap Codec.text Peers.codec).iso (⟨·⟩) PeerMembershipResult.peersByOrg

/-- How many endorsements of each group satisfy a policy. -/
structure Layout where
  quantitiesByGroup : SortedMap String UInt32 := ∅
  deriving DecidableEq, Repr, Inhabited

def Layout.codec : Codec Layout :=
  (Codec.sortedMap Codec.text Codec.u32).iso (⟨·⟩) Layout.quantitiesByGroup

/-- Whose endorsements a chaincode needs: groups of peers, and the layouts over them. -/
structure EndorsementDescriptor where
  chaincode : String := ""
  endorsersByGroups : SortedMap String Peers := ∅
  layouts : List Layout := []
  deriving DecidableEq, Repr, Inhabited

def EndorsementDescriptor.codec : Codec EndorsementDescriptor :=
  (Codec.text.pair <| (Codec.sortedMap Codec.text Peers.codec).pair (Codec.list
    Layout.codec)).iso
    (fun (chaincode, endorsersByGroups, layouts) => ⟨chaincode, endorsersByGroups, layouts⟩)
    (fun e => (e.chaincode, e.endorsersByGroups, e.layouts))

/-- The answer to a query about chaincodes: a descriptor for each interest. -/
structure ChaincodeQueryResult where
  content : List EndorsementDescriptor := []
  deriving DecidableEq, Repr, Inhabited

def ChaincodeQueryResult.codec : Codec ChaincodeQueryResult :=
  (Codec.list EndorsementDescriptor.codec).iso (⟨·⟩) ChaincodeQueryResult.content

/-- The answer to one query. -/
inductive QueryResult where
  | error (content : String)
  | config (result : ConfigResult)
  | members (result : PeerMembershipResult)
  | chaincodes (result : ChaincodeQueryResult)
  deriving DecidableEq, Repr, Inhabited

namespace QueryResult

def variants : List (Codec.Variant QueryResult) :=
  [⟨.error, fun | .error c => some c | _ => none, .text⟩,
    ⟨.config, fun | .config r => some r | _ => none, ConfigResult.codec⟩,
    ⟨.members, fun | .members r => some r | _ => none, PeerMembershipResult.codec⟩,
    ⟨.chaincodes, fun | .chaincodes r => some r | _ => none, ChaincodeQueryResult.codec⟩]

def codec : Codec QueryResult := .choice variants

end QueryResult

/-- The answers to the queries of a request, in their order. -/
structure DiscoveryResponse where
  results : List QueryResult := []
  deriving DecidableEq, Repr, Inhabited

def DiscoveryResponse.codec : Codec DiscoveryResponse :=
  (Codec.list QueryResult.codec).iso (⟨·⟩) DiscoveryResponse.results

end LedgerClient
