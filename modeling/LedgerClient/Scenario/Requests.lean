import LedgerClient.Document.Listener
import LedgerClient.Scenario.Services

/-!
# Steps about requests

Makes proposals, commits, hubs and discoveries, builds and signs their requests, and shows
how far they have come. All requests are built at the start of time; nobody sees when.
-/

namespace LedgerClient

namespace Work

/-! ### Requests of the session -/

/-- A proposal. -/
def proposal (id : ProposalId) : Work Proposal := do
  (← session).proposals.get? id.index

/-- Replaces a proposal. -/
def setProposal (id : ProposalId) (p : Proposal) : Work Unit := do
  setSession ((← session).setProposal id p)

/-- A commit. -/
def commit (id : CommitId) : Work Commit := do
  (← session).commits.get? id.index

/-- Replaces a commit. -/
def setCommit (id : CommitId) (c : Commit) : Work Unit := do
  let s ← session
  setSession { s with commits := s.commits.set id.index c }

/-- A hub. -/
def hub (id : HubId) : Work (EventHub StreamSource) := do
  (← session).hubs.get? id.index

/-- Replaces a hub. -/
def setHub (id : HubId) (h : EventHub StreamSource) : Work Unit := do
  setSession ((← session).setHub id h)

/-- A discovery. -/
def discovery (id : DiscoveryId) : Work ChannelDiscovery := do
  (← session).discoveries.get? id.index

/-- Replaces a discovery. -/
def setDiscovery (id : DiscoveryId) (d : ChannelDiscovery) : Work Unit := do
  let s ← session
  setSession { s with discoveries := s.discoveries.set id.index d }

/-- The proposal that a name stands for. -/
def proposalNamed (name : String) : Work ProposalId := do
  match ← request name with
  | .proposal id => return id
  | _ => unclear

/-- The hub that a name stands for. -/
def hubNamed (name : String) : Work HubId := do
  match ← request name with
  | .hub id => return id
  | _ => unclear

/-- The discovery that a name stands for. -/
def discoveryNamed (name : String) : Work DiscoveryId := do
  match ← request name with
  | .discovery id => return id
  | _ => unclear

end Work

namespace Scenario

open Work

/-! ### Making requests -/

/-- Keeps what was made under its name. -/
def nameMade {ε : Type} [Faulty ε] (d : Document) (made : Except ε (RequestId × Session)) :
    Work Document :=
  orFault made fun (id, s) => do
    setSession s
    nameRequest (← text d "id") id
    answer true

/-- Makes a proposal, a commit, a hub or a discovery. -/
def newRequest : Step := fun d => do
  let name ← text d "name"
  let channel ← text d "channel"
  let chaincode ← text d "chaincode"
  let s ← session
  match ← text d "kind" with
  | "endorsement" =>
    nameMade d ((s.addProposal .endorsement chaincode channel).map fun (p, s) => (.proposal p, s))
  | "query" =>
    nameMade d ((s.addProposal .query chaincode channel).map fun (p, s) => (.proposal p, s))
  | "commit" => do
    let p ← proposal (← proposalNamed (← text d "endorsement"))
    nameMade d ((s.addCommit p).map fun (c, s) => (.commit c, s))
  | "hub" => nameMade d ((s.addHub name channel).map fun (h, s) => (.hub h, s))
  | "discovery" => do
    let made ← onSession fun s => s.addDiscovery name channel
    let s ← session
    nameMade d (made.map fun id => (.discovery id, s))
  | _ => unclear

/-! ### Building -/

/-- The person a step names; a nonce that comes with the step is kept for later ones. -/
def actor (d : Document) : Work Person := do
  let name : Option String ← d.get? "identity"
  let name := name.getD "me"
  let p ← person name
  let nonce : Option Bytes ← d.get? "nonce"
  let p := { p with nonce := nonce.getD p.nonce }
  modify fun desk => { desk with people := desk.people.insert name p }
  return p

/-- Reads an invocation. -/
def readInvocation? (d : Document) : Option Invocation := do
  let function : Option String ← d.get? "fcn"
  let usual : Invocation := {}
  return { function := function.getD usual.function, args := ← d.get? "args"
           transientMap := ← d.get? "transient", init := ← d.get? "init" }

/-- What a discovery shall ask for: what the step says, and what a proposal touches. -/
def wish (d : Document) : Work DiscoveryWish := do
  let config : Option Bool ← d.get? "config"
  let interest : List ChaincodeInterest ← d.get? "interest"
  let name : Option String ← d.get? "proposal"
  let more ← match name with
    | none => pure []
    | some name => do pure [(← proposal (← proposalNamed name)).interest]
  return { config := config.getD true, localPeers := ← d.get? "local"
           interest := interest ++ more }

/-- Makes a call on a request. What the call leaves behind is kept, also if it fails. -/
def call {ε ρ α : Type} [Faulty ε] (x : RequestM ε ρ α) (r : ρ) (keep : ρ → Work Unit)
    (next : α → Work Document) : Work Document := do
  let (outcome, r) := x.perform r
  keep r
  orFault outcome next

/-- Builds a request, and shows its payload. -/
def build : Step := fun d => do
  let target ← request (← text d "id")
  let signer := (← actor d).signer
  match target with
  | .proposal id =>
    let building := Proposal.building signer {} (← readInvocation? d)
    call building (← proposal id) (setProposal id) fun bytes => do
      report [("payload", proposalDocument bytes),
        ("tx_id", shown ((← proposal id).tx.map TransactionId.txId))]
  | .commit id =>
    call (Commit.building signer) (← commit id) (setCommit id) fun bytes =>
      report [("payload", payloadDocument bytes)]
  | .hub id => do
    let start ← BlockPosition.readField? d "start"
    let stop ← BlockPosition.readField? d "end"
    let blockType : Option BlockType ← d.get? "block_type"
    orFault start fun start => orFault stop fun stop => do
      let building := EventHub.building signer {} { start, stop, blockType }
      call building (← hub id) (setHub id) fun bytes =>
        report [("payload", payloadDocument bytes)]
  | .discovery id => do
    let building := ChannelDiscovery.building signer (← wish d) (← world)
    call building (← discovery id) (setDiscovery id) fun bytes =>
      report [("payload", shown bytes)]

/-! ### Signing -/

/-- Signs a request, or attaches a signature that the step brings. -/
def sign : Step := fun d => do
  let target ← request (← text d "id")
  let signature : Option Bytes ← d.get? "signature"
  let signer := (← actor d).signer
  let signed {ε ρ : Type} [Faulty ε] (signing : Signer → RequestM ε ρ Unit)
      (attaching : Bytes → RequestM ε ρ Unit) (r : ρ) (keep : ρ → Work Unit) : Work Document :=
    let x := match signature with
      | some b => attaching b
      | none => signing signer
    call x r keep fun _ => answer true
  match target with
  | .proposal id => do
    signed Proposal.signing Proposal.attaching (← proposal id) (setProposal id)
  | .commit id => do
    signed Commit.signing Commit.attaching (← commit id) (setCommit id)
  | .hub id => do
    signed EventHub.signing EventHub.attaching (← hub id) (setHub id)
  | .discovery id => do
    signed ChannelDiscovery.signing ChannelDiscovery.attaching (← discovery id) (setDiscovery id)

/-! ### Looking at requests -/

/-- The signature of a request, or the fault in its place. -/
def signedBy (action : String) (s : SignState) : Work Document := do
  match s.envelope action with
  | .error e => return shownFault e
  | .ok e => signatureDocument e.payload e.signature

/-- Shows the payload and the signature of a request. -/
def showPayload : Step := fun d => do
  match ← request (← text d "id") with
  | .proposal id => do
    let p ← proposal id
    orFault (p.state.payloadBytes Proposal.action) fun bytes => do
      report [("payload", proposalDocument bytes),
        ("signature", ← signedBy Proposal.action p.state),
        ("signed_proposal", shown p.signed.isOk), ("built", shown p.state.isBuilt),
        ("is_signed", shown p.state.isSigned)]
  | .commit id => do
    let c ← commit id
    orFault (c.state.payloadBytes Commit.action) fun bytes => do
      report [("payload", payloadDocument bytes), ("signature", ← signedBy Commit.action c.state),
        ("chaincode", shown c.chaincodeId), ("channel", shown c.channelName)]
  | .hub id => do
    let bytes := (← hub id).request.state.payloadBytes EventHub.action
    orFault (bytes.mapError EventHubError.action) fun bytes =>
      report [("payload", payloadDocument bytes)]
  | .discovery id => do
    let bytes := (← discovery id).request.state.payloadBytes QueryList.action
    orFault (bytes.mapError DiscoveryError.action) fun bytes =>
      report [("payload", shown bytes)]

/-- Adds to what a proposal is known to touch. -/
def addInterest : Step := fun d => do
  let id ← proposalNamed (← text d "id")
  let p ← proposal id
  let collections : List String ← d.get? "collections"
  let noPrivateReads : Option Bool ← d.get? "no_private_reads"
  let chaincodes : List (String × List String) ← d.get? "chaincodes"
  let calls : List ChaincodeCall := chaincodes.map fun (name, collectionNames) =>
    { name, collectionNames }
  let p := { p with
    collectionsInterest := p.collectionsInterest ++ collections
    noPrivateReads := noPrivateReads.getD p.noPrivateReads
    chaincodesInterest := p.chaincodesInterest ++ calls }
  setProposal id p
  answer p.interest

/-- Shows a proposal with the results recorded for it. -/
def outcome : Step := fun d => do
  let p ← proposal (← proposalNamed (← text d "id"))
  let common := [("chaincode", shown p.chaincodeId), ("channel", shown p.channelName),
    ("tx_id", shown (p.tx.map TransactionId.txId)), ("results", shown p.results)]
  match p.kind with
  | .endorsement => report (("kind", shown "Endorsement") :: common)
  | .query =>
    let answers := (p.results.map ProposalResults.queryResults).getD []
    report (("kind", shown "Query") :: ("query_results", shown answers) :: common)

/-- The steps about requests. -/
def requestSteps : List (String × Step) := [
  ("new", newRequest), ("build", build), ("sign", sign), ("payload", showPayload),
  ("interest", addInterest), ("outcome", outcome)]

end Scenario

end LedgerClient
