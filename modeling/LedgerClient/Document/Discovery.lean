import LedgerClient.Document.Basic
import LedgerClient.Message.Discovery

/-!
# Documents of discovery

What peers gossip about themselves, what is asked of discovery services, and what they
answer.
-/

namespace LedgerClient

/-! ### Gossip -/

instance : Form SerializedIdentity := .record <|
  SerializedIdentity.mk <$> field "mspid" (·.mspid) <*> field "id_bytes" (·.idBytes)

instance : Form OrganizationalUnitIdentifier := .record <|
  OrganizationalUnitIdentifier.mk <$> field "certificate" (·.certificate)
    <*> field "organizational_unit_identifier" (·.organizationalUnitIdentifier)

instance : Form FabricMspConfig := .record <|
  FabricMspConfig.mk <$> field "name" (·.name) <*> field "root_certs" (·.rootCerts)
    <*> field "intermediate_certs" (·.intermediateCerts) <*> field "admins" (·.admins)
    <*> field "revocation_list" (·.revocationList)
    <*> field "organizational_unit_identifiers" (·.organizationalUnitIdentifiers)
    <*> field "tls_root_certs" (·.tlsRootCerts)
    <*> field "tls_intermediate_certs" (·.tlsIntermediateCerts)

instance : Form MspConfig := .record <|
  MspConfig.mk <$> field "msp_type" (·.mspType) <*> field "config" (·.config)

instance : Form GossipEnvelope := .record <|
  GossipEnvelope.mk <$> field "payload" (·.payload) <*> field "signature" (·.signature)

instance : Form Member := .record <|
  Member.mk <$> field "endpoint" (·.endpoint) <*> field "pki_id" (·.pkiId)

instance : Form AliveMessage := .record <|
  AliveMessage.mk <$> field "membership" (·.membership) <*> field "timestamp" (·.timestamp)

instance : Form InstalledChaincode := .record <|
  InstalledChaincode.mk <$> field "name" (·.name) <*> field "version" (·.version)

instance : Form Properties := .record <|
  Properties.mk <$> field "ledger_height" (·.ledgerHeight)
    <*> field "left_channel" (·.leftChannel) <*> field "chaincodes" (·.chaincodes)

instance : Form StateInfo := .record <|
  StateInfo.mk <$> field "pki_id" (·.pkiId) <*> field "channel_mac" (·.channelMac)
    <*> field "properties" (·.properties)

instance : Form GossipContent where
  document
    | .alive m => .object [("AliveMsg", shown m)]
    | .state s => .object [("StateInfo", shown s)]
    | .empty => .text "Empty"
  read? d := do
    match ← d.variant? with
    | ("AliveMsg", m) => return .alive (← Form.read? m)
    | ("StateInfo", s) => return .state (← Form.read? s)
    | ("Empty", _) => return .empty
    | _ => none
  absent? := none

instance : Form GossipMessage := .record <|
  GossipMessage.mk <$> field "nonce" (·.nonce) <*> field "channel" (·.channel)
    <*> field "content" (·.content)

/-! ### Queries and results -/

instance : Form AuthInfo := .record <|
  AuthInfo.mk <$> field "client_identity" (·.clientIdentity)
    <*> field "client_tls_cert_hash" (·.clientTlsCertHash)

instance : Form ChaincodeCall := .record <|
  ChaincodeCall.mk <$> field "name" (·.name) <*> field "collection_names" (·.collectionNames)
    <*> field "no_private_reads" (·.noPrivateReads)

instance : Form ChaincodeInterest := .record <|
  ChaincodeInterest.mk <$> field "chaincodes" (·.chaincodes)

instance : Form QueryKind where
  document
    | .config => .text "ConfigQuery"
    | .peers => .text "PeerQuery"
    | .localPeers => .text "LocalPeers"
    | .chaincodes interests => .object [("CcQuery", .object [("interests", shown interests)])]
  read? d := do
    match ← d.variant? with
    | ("ConfigQuery", _) => return .config
    | ("PeerQuery", _) => return .peers
    | ("LocalPeers", _) => return .localPeers
    | ("CcQuery", q) => return .chaincodes (← q.get? "interests")
    | _ => none
  absent? := none

instance : Form Query := .record <|
  Query.mk <$> field "channel" (·.channel) <*> field "query" (·.query)

instance : Form DiscoveryRequest := .record <|
  DiscoveryRequest.mk <$> field "authentication" (·.authentication)
    <*> field "queries" (·.queries)

instance : Form SignedRequest := .record <|
  SignedRequest.mk <$> field "payload" (·.payload) <*> field "signature" (·.signature)

instance : Form OrdererEndpoint := .record <|
  OrdererEndpoint.mk <$> field "host" (·.host) <*> field "port" (·.port)

instance : Form Endpoints := .record <|
  Endpoints.mk <$> field "endpoint" (·.endpoint)

instance : Form ConfigResult := .record <|
  ConfigResult.mk <$> field "msps" (·.msps) <*> field "orderers" (·.orderers)

instance : Form DiscoveryPeer := .record <|
  DiscoveryPeer.mk <$> field "state_info" (·.stateInfo)
    <*> field "membership_info" (·.membershipInfo) <*> field "identity" (·.identity)

instance : Form Peers := .record <|
  Peers.mk <$> field "peers" (·.peers)

instance : Form PeerMembershipResult := .record <|
  PeerMembershipResult.mk <$> field "peers_by_org" (·.peersByOrg)

instance : Form Layout := .record <|
  Layout.mk <$> field "quantities_by_group" (·.quantitiesByGroup)

instance : Form EndorsementDescriptor := .record <|
  EndorsementDescriptor.mk <$> field "chaincode" (·.chaincode)
    <*> field "endorsers_by_groups" (·.endorsersByGroups) <*> field "layouts" (·.layouts)

instance : Form ChaincodeQueryResult := .record <|
  ChaincodeQueryResult.mk <$> field "content" (·.content)

instance : Form QueryResult where
  document
    | .error content => .object [("Error", .object [("content", shown content)])]
    | .config r => .object [("ConfigResult", shown r)]
    | .members r => .object [("Members", shown r)]
    | .chaincodes r => .object [("CcQueryRes", shown r)]
  read? d := do
    match ← d.variant? with
    | ("Error", e) => return .error (← e.get? "content")
    | ("ConfigResult", r) => return .config (← Form.read? r)
    | ("Members", r) => return .members (← Form.read? r)
    | ("CcQueryRes", r) => return .chaincodes (← Form.read? r)
    | _ => none
  absent? := none

instance : Form DiscoveryResponse := .record <|
  DiscoveryResponse.mk <$> field "results" (·.results)

end LedgerClient
