import LedgerClient.Discovery.ChannelDiscovery
import LedgerClient.Document.Delivery
import LedgerClient.Document.Discovery
import LedgerClient.Document.Fault
import LedgerClient.Document.Proposal
import LedgerClient.Event.Script

/-!
# Documents of what a client learns

The answers of peers, what discovery has found, the configuration in force, the state of
hubs, and what listeners hear.
-/

namespace LedgerClient

instance : Shown OrdererAddress where
  document a := .object [("name", shown a.name), ("host", shown a.host), ("port", shown a.port)]

instance : Shown DiscoveredPeer where
  document p := .object [("name", shown p.name), ("mspid", shown p.mspid), ("host", shown p.host),
    ("port", shown p.port), ("ledger_height", shown p.ledgerHeight),
    ("chaincodes", shown p.chaincodes)]

instance : Shown EndorsementPlan where
  document p := .object [("chaincode", shown p.chaincode), ("groups", shown p.groups),
    ("layouts", shown p.layouts)]

instance : Shown DiscoveryTree where
  document t := .object [("msps", shown t.msps), ("orderers", shown t.orderers),
    ("peers_by_org", shown t.peersByOrg), ("local_peers", shown t.localPeers),
    ("plan", shown t.plan), ("peers", shown (t.members.map DiscoveredPeer.name))]

instance : Shown PeerResponse where
  document r := .object [("peer", shown r.peer), ("connection", shown r.connection),
    ("response", shown r.response)]

instance : Shown ProposalResults where
  document r := .object [("responses", shown r.responses), ("errors", shown r.errors),
    ("is_empty", shown r.isEmpty), ("compare", shown r.agree),
    ("query_results", shown r.queryResults)]

instance : Shown ClientConfig where
  document c := .object [
    ("endpoint", shown c.endpoint),
    ("event_hub", .object [("default_block_type", shown c.eventHub.defaultBlockType),
      ("setup_timeout_ms", shown c.eventHub.setupTimeout)]),
    ("discovery", .object [("request_timeout_ms", shown c.discovery.requestTimeout),
      ("refresh_age_ms", shown c.discovery.refreshAge),
      ("as_localhost", shown c.discovery.asLocalhost),
      ("protocol", shown c.discovery.protocol)]),
    ("logging", .object [("level", shown c.logging.level), ("json", shown c.logging.json)])]

/-! ### Hubs -/

instance {ι : Type} : Shown (EventHub ι) where
  document h :=
    let s := h.state
    .object [("name", shown h.name), ("channel", shown h.channel),
      ("last_block", shown s.lastBlock), ("listening", shown s.stream.isSome),
      ("listeners", .ofNat s.registry.size), ("end_block_seen", shown s.stopSeen),
      ("has", shown [s.registry.hasBlock, s.registry.hasTx, s.registry.hasChaincode])]

/-- Of a block that is taken apart, the number and an outline of its transactions are
shown. -/
def DecodedBlock.outline (b : DecodedBlock) : Document :=
  .object [("number", shown b.number), ("txs", .list (b.transactions.map fun t =>
    .list [shown t.txId, shown t.validationCode, .ofNat t.actions.length]))]

instance : Shown BlockEvent where
  document e := .object [("hub", shown e.hub), ("block_number", shown e.blockNumber),
    ("block", (e.block.map DecodedBlock.outline).getD .null),
    ("filtered_block", shown e.filteredBlock), ("private_data", shown e.privateData),
    ("transaction_id", shown e.transactionId), ("transaction_status", shown e.transactionStatus),
    ("chaincode_events", shown e.chaincodeEvents),
    ("end_block_received", shown e.endBlockReceived)]

instance : Shown Termination where
  document t := .object [("hub", shown t.hub), ("kind", shown t.kind.label),
    ("message", shown t.message), ("clean", shown t.kind.isClean),
    ("connection", shown t.connection), ("last_block_number", shown t.lastBlockNumber)]

instance : Shown Heard where
  document
    | .told l (.event e) => .object [("listener", shown l), ("event", shown e)]
    | .told l (.terminated t) => .object [("listener", shown l), ("terminated", shown t)]
    | .unregistered l removed =>
      .object [("listener", shown l), ("unregistered", shown removed)]
    | .registered l outcome => .object [("listener", shown l),
        ("registered", .inPlace (outcome.map fun h => shown h.label))]

end LedgerClient
