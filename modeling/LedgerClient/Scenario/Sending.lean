import LedgerClient.Scenario.Requests

/-!
# Steps that send

Sends proposals, transactions, requests for streams and discovery requests, either to nodes
or through a discovery, and shows what discoveries have found. Where peers are asked in
random order, the results are shown in the order of their names.
-/

namespace LedgerClient.Scenario

open Work

/-! ### Targets -/

/-- The nodes that a step sends to. -/
def targetNodes (k : NodeKind) (d : Document) : Work (List (NodeId k)) := do
  let names : List String ← d.get? "targets"
  names.mapM fun name => do
    let n ← node name
    if h : n.kind = k then return h ▸ n.id else unclear

/-- Where a step sends to. -/
def targets (k : NodeKind) (d : Document) : Work (Targets k) := do
  let handler : Option String ← d.get? "handler"
  match handler with
  | some name => return .discovery (← discoveryNamed name)
  | none => return .nodes (← targetNodes k d)

/-- Reads how peers are chosen for endorsement. -/
def readEndorseRequest? (d : Document) : Option EndorseRequest := do
  let sort : String ← d.get? "sort"
  return {
    timeout := ← d.get? "timeout_ms"
    ignoreOrgs := ← d.get? "ignore_orgs"
    ignorePeers := ← d.get? "ignore_peers"
    preferredOrgs := ← d.get? "preferred_orgs"
    preferredPeers := ← d.get? "preferred_peers"
    preferredHeightGap := ← d.get? "preferred_height_gap"
    sort := if sort = "random" then .random else .ledgerHeight }

/-- Results whose order is left to chance. -/
def unordered (r : ProposalResults) : Document :=
  let byPeer {α : Type} (peer : α → String) (items : List α) : List α :=
    items.mergeSort fun a b => peer a ≤ peer b
  .object [("responses", shown (byPeer PeerResponse.peer r.responses)),
    ("errors", shown (byPeer PeerFailure.peer r.errors)), ("is_empty", shown r.isEmpty),
    ("compare", shown r.agree), ("query_results", .null)]

/-! ### Discovery results -/

/-- Remembers which results were seen, and tells whether they are those seen before. -/
def see (id : DiscoveryId) (r : DiscoveryResults) : Work Bool := do
  let desk ← get
  set { desk with seen := some (id, r.serial) }
  return desk.seen == some (id, r.serial)

/-- Lets a discovery act that comes back with results. -/
def discoverWith (id : DiscoveryId)
    (act : ChannelDiscovery → World →
      Except DiscoveryError DiscoveryResults × ChannelDiscovery × World)
    (next : DiscoveryResults → Work Document) : Work Document := do
  let x ← discovery id
  orFault (← onSession fun s => s.withDiscovery id x act) next

/-! ### Sending -/

/-- Sends a proposal, and shows the results. -/
def sendProposal (id : ProposalId) : Step := fun d => do
  let targets ← targets .peer d
  let p ← proposal id
  match p.kind with
  | .endorsement => do
    let r ← readEndorseRequest? d
    let results ← onSession? fun s => s.endorse id p targets r fun _ peers => peers
    orFault results fun results =>
      if r.sort = .random then return .ok (unordered results) else answer results
  | .query => do
    let timeout : Option Nat ← d.get? "timeout_ms"
    orFault (← onSession? fun s => s.query id p targets timeout) answer

/-- Sends a transaction, and shows the answer. -/
def sendCommit (id : CommitId) : Step := fun d => do
  let targets ← targets .orderer d
  let timeout : Option Nat ← d.get? "timeout_ms"
  let mspid : Option String ← d.get? "mspid"
  let c ← commit id
  orFault (← onSession fun s => s.commit c targets timeout mspid fun orderers => orderers) answer

/-- Sends the request of a hub, and shows the hub afterwards. -/
def sendHub (id : HubId) : Step := fun d => do
  let targets ← targetNodes .eventer d
  let timeout : Option Nat ← d.get? "timeout_ms"
  let sent ← onSession? fun s => s.sendHub id targets timeout
  report [("sent", .done sent), ("state", shown (← hub id))]

/-- Sends a discovery request, and shows what was found. -/
def sendDiscovery (id : DiscoveryId) : Step := fun d => do
  let r : DiscoverRequest :=
    { targets := ← targetNodes .discoverer d
      timeout := ← d.get? "timeout_ms"
      asLocalhost := ← d.get? "as_localhost"
      refreshAge := ← d.get? "refresh_age_ms" }
  discoverWith id (fun x w => x.send r w) fun results => do
    let _ ← see id results
    answer results.tree

/-- Sends a request. -/
def send : Step := fun d => do
  match ← request (← text d "id") with
  | .proposal id => sendProposal id d
  | .commit id => sendCommit id d
  | .hub id => sendHub id d
  | .discovery id => sendDiscovery id d

/-! ### Looking at discoveries -/

/-- Shows what a discovery has found, renewed first if that is asked for. -/
def discoveryResults : Step := fun d => do
  let id ← discoveryNamed (← text d "id")
  let refresh : Bool ← d.get? "refresh"
  let age : Option Nat ← d.get? "age_ms"
  discoverWith id (fun x w => x.getResults refresh w) fun results => do
    let now := (← network).clock
    report [("same", shown (← see id results)),
      ("stale", shown (age.map fun age => results.isStale age now)),
      ("has", shown (← discovery id).results.isSome), ("results", shown results.tree)]

/-- Shows a discovery. -/
def discoveryState : Step := fun d => do
  let x ← discovery (← discoveryNamed (← text d "id"))
  let channel := ((← world).channel? x.channel).map Channel.name
  report [("name", shown x.name), ("channel", shown channel), ("has", shown x.results.isSome),
    ("as_localhost", shown x.config.asLocalhost)]

/-- The steps that send, and those that look at discoveries. -/
def sendingSteps : List (String × Step) := [
  ("send", send), ("results", discoveryResults), ("discovery_state", discoveryState)]

end LedgerClient.Scenario
