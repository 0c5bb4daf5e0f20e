import LedgerClient.Document.Delivery
import LedgerClient.Document.Discovery
import LedgerClient.Event.Hub
import LedgerClient.Fixture.Ledger
import LedgerClient.Fixture.Membership

/-!
# Brief descriptions

Blocks, peers and discovery results can be described in a few words, from which samples of
them are built. Each may also be spelled out in full, under the field `raw`.
-/

namespace LedgerClient.Sample

/-- A value that is described in brief, or spelled out in full under `raw`. -/
def rawOr {α : Type} [Form α] (brief : Document → Option α) (d : Document) : Option α :=
  match d.field? "raw" with
  | some raw => Form.read? raw
  | none => brief d

/-- An event: its name, its payload and, if it is another one, its chaincode. -/
def readEvent? (txId chaincode : String) (d : Document) : Option ChaincodeEvent := do
  let event (chaincodeId : String) (name payload : Document) : Option ChaincodeEvent :=
    return { chaincodeId, txId, eventName := ← Form.read? name, payload := ← Form.read? payload }
  match ← d.items? with
  | [name, payload] => event chaincode name payload
  | [name, payload, other] => do
    let other : Option String ← Form.read? other
    event (other.getD chaincode) name payload
  | _ => none

/-- A transaction of a block. -/
def readTx? (d : Document) : Option Tx := do
  let txId : String ← d.get? "id"
  let chaincode : String ← d.get? "chaincode"
  let headerType : Option HeaderType ← d.get? "type"
  let events : List Document ← d.get? "events"
  return { txId, chaincode
           headerType := headerType.getD .endorserTransaction
           events := ← events.mapM (readEvent? txId chaincode)
           code := ← d.get? "code" }

/-- The transactions of a block. -/
def readTxs? (d : Document) : Option (List Tx) := do
  let txs : List Document ← d.get? "txs"
  txs.mapM readTx?

/-- A full block: its number and transactions, with further entries and other metadata. -/
def readBlock? : Document → Option Block :=
  rawOr fun d => do
    let block := fullBlock (← d.get? "number") (← readTxs? d)
    let extra : List Bytes ← d.get? "extra"
    let metadata : Option (List Bytes) ← d.get? "metadata"
    return { block with
      data := { data := block.data.data ++ extra }
      metadata := (metadata.map (⟨·⟩)).getD block.metadata }

/-- A filtered block: its number and transactions. -/
def readFilteredBlock? : Document → Option FilteredBlock :=
  rawOr fun d => do return filteredBlock (← d.get? "number") (← readTxs? d)

/-- A peer: its organization and address, and its ledger height and chaincodes if they are
published. -/
def readPeer? : Document → Option DiscoveryPeer :=
  rawOr fun d => do
    let mspid : String ← d.get? "mspid"
    let endpoint : String ← d.get? "endpoint"
    let height : Option UInt64 ← d.get? "height"
    match height with
    | none => return localPeer mspid endpoint
    | some height => return channelPeer mspid endpoint height (← d.get? "chaincodes")

/-- Peers, each with its organization. -/
def readMembers? (d : Document) : Option PeerMembershipResult := do
  let peers : List (String × Document) ← Form.read? d
  return members (← peers.mapM fun (org, p) => return (org, ← readPeer? p))

/-- An endorsement plan: groups of peers, and layouts. -/
def readPlan? (d : Document) : Option ChaincodeQueryResult := do
  let groups : List (String × List Document) ← d.get? "groups"
  let groups ← groups.mapM fun (name, peers) => return (name, ← peers.mapM readPeer?)
  return endorsementPlan (← d.get? "chaincode") groups (← d.get? "layouts")

/-- A configuration: the TLS roots of organizations, and orderers. -/
def readConfig? (d : Document) : Option ConfigResult := do
  let orderers : List Document ← d.get? "orderers"
  let orderers ← orderers.mapM fun d => do
    match ← d.items? with
    | [mspid, host, port] =>
      return (← Form.read? mspid, ← Form.read? host, ← Form.read? port)
    | _ => none
  return configResult (← d.get? "msps") orderers

/-- One result of a discovery service. -/
def readResult? (d : Document) : Option QueryResult := do
  match ← d.variant? with
  | ("raw", r) => Form.read? r
  | ("config", c) => return .config (← readConfig? c)
  | ("members", m) => return .members (← readMembers? m)
  | ("plan", p) => return .chaincodes (← readPlan? p)
  | ("error", e) => return .error (← Form.read? e)
  | _ => none

/-- The results of a discovery service. -/
def readResults? (d : Document) : Option (List QueryResult) := do
  let results : List Document ← d.get? "results"
  results.mapM readResult?

/-- What a stream of blocks brings. -/
def readStreamEvent? (d : Document) : Option StreamEvent := do
  match d.field? "private" with
  | some block => return .data (.blockAndPrivateData (← readBlock? block) (← d.get? "data"))
  | none =>
    match ← d.variant? with
    | ("filtered", b) => return .data (.filteredBlock (← readFilteredBlock? b))
    | ("block", b) => return .data (.block (← readBlock? b))
    | ("status", s) => return .data (.status (← Form.read? s))
    | ("error", reason) => return .failed (← Form.read? reason)
    | ("end", _) => return .ended
    | _ => none

/-- What a stream of blocks brings, in order. -/
def readStreamEvents? (d : Document) : Option (List StreamEvent) := do
  let events : List Document ← d.get? "events"
  events.mapM readStreamEvent?

end LedgerClient.Sample
