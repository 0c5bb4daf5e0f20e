import LedgerClient.Message.Wire

/-!
# Sample discovery results

Builds the answers of a discovery service from short descriptions: peers with their ledger
height and chaincodes, peers by organization, configurations, and endorsement plans.
-/

namespace LedgerClient.Sample

/-- A gossip message without channel and signature. -/
def gossip (content : GossipContent) : GossipEnvelope :=
  { payload := Wire.encode ({ nonce := 0, channel := [], content } : GossipMessage) }

/-- The certificate text of the peer at an address. -/
def certificate (endpoint : String) : String :=
  "-----BEGIN CERTIFICATE-----\n" ++ endpoint ++ "\n-----END CERTIFICATE-----\n"

/-- A peer that is alive, of whose ledger nothing is known. -/
def localPeer (mspid endpoint : String) : DiscoveryPeer :=
  { membershipInfo := some <| gossip <| .alive
      { membership := { endpoint, pkiId := Utf8.encode endpoint }, timestamp := 1 }
    identity := Wire.encode
      ({ mspid, idBytes := Utf8.encode (certificate endpoint) } : SerializedIdentity) }

/-- A peer that is alive and publishes its ledger height and chaincodes. -/
def channelPeer (mspid endpoint : String) (ledgerHeight : UInt64)
    (chaincodes : List String) : DiscoveryPeer :=
  { localPeer mspid endpoint with
    stateInfo := some <| gossip <| .state
      { pkiId := Utf8.encode endpoint
        properties := some
          { ledgerHeight
            chaincodes := chaincodes.map fun name => { name, version := "1.0" } } } }

/-- The peers of each organization, in the order of the list. -/
def members (peers : List (String × DiscoveryPeer)) : PeerMembershipResult :=
  { peersByOrg := peers.foldl (fun orgs (mspid, peer) =>
      orgs.update mspid fun old => { peers := (old.getD {}).peers ++ [peer] }) ∅ }

/-- A configuration with one TLS root for each MSP, and the orderers of each. -/
def configResult (msps : List (String × String)) (orderers : List (String × String × UInt16)) :
    ConfigResult :=
  { msps := SortedMap.ofList <| msps.map fun (mspid, tlsRoot) =>
      let config : FabricMspConfig :=
        { name := mspid
          rootCerts := [Utf8.encode "ROOT"]
          tlsRootCerts := [Utf8.encode tlsRoot] }
      (mspid, { mspType := 0, config := Wire.encode config })
    orderers := orderers.foldl (fun byMsp (mspid, host, port) =>
      byMsp.update mspid fun old =>
        { endpoint := (old.getD {}).endpoint ++ [{ host, port }] }) ∅ }

/-- The answer to a chaincode query: one descriptor. -/
def endorsementPlan (chaincode : String) (groups : List (String × List DiscoveryPeer))
    (layouts : List (List (String × UInt32))) : ChaincodeQueryResult :=
  { content := [
      { chaincode
        endorsersByGroups := SortedMap.ofList <| groups.map fun (name, peers) => (name, { peers })
        layouts := layouts.map fun l => { quantitiesByGroup := SortedMap.ofList l } }] }

end LedgerClient.Sample
