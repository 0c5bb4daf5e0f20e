import LedgerClient.Client.Client
import LedgerClient.Discovery.Commit
import LedgerClient.Discovery.Endorse
import LedgerClient.Discovery.Query
import LedgerClient.Event.Script

/-!
# Sessions

A client at work: the outside world, the requests, hubs and discoveries it has made, and
the listeners at the hubs. Requests are sent either to nodes or through a discovery, which
chooses the nodes. After everything that is done, hubs read what their streams bring until
there is nothing left to read.
-/

namespace LedgerClient

/-- What callbacks can reach: the outside world and the other listeners. -/
structure Stage where
  world : World := {}
  audience : Audience := {}

/-- A proposal of a session. -/
structure ProposalId where
  index : Nat
  deriving DecidableEq, Repr, Inhabited

/-- A commit of a session. -/
structure CommitId where
  index : Nat
  deriving DecidableEq, Repr, Inhabited

/-- A discovery of a session. -/
structure DiscoveryId where
  index : Nat
  deriving DecidableEq, Repr, Inhabited

/-- Where a request goes. -/
inductive Targets (k : NodeKind) where
  | nodes (ids : List (NodeId k))
  | discovery (id : DiscoveryId)

/-- A client at work. -/
structure Session where
  client : Client := {}
  stage : Stage := {}
  hubs : Table (EventHub StreamSource) := {}
  discoveries : Table ChannelDiscovery := {}
  proposals : Table Proposal := {}
  commits : Table Commit := {}

namespace Session

/-- The outside world. -/
def world (s : Session) : World := s.stage.world

/-- The session with its outside world changed. -/
def setWorld (w : World) (s : Session) : Session :=
  { s with stage := { s.stage with world := w } }

/-- The session with its outside world changed by a function that also has a result. -/
def onWorld {α : Type} (f : World → α × World) (s : Session) : α × Session :=
  let (a, w) := f s.world
  (a, s.setWorld w)

/-! ### Making things -/

/-- Finds or makes a channel. -/
def channel (name : String) (s : Session) : Except ServiceError ChannelId × Session :=
  let (id, client, w) := s.client.channel name s.world
  (id, { s with client }.setWorld w)

/-- Makes a hub. -/
def addHub (name channel : String) (s : Session) : Except EventHubError (HubId × Session) := do
  let hub ← s.client.eventHub name channel
  return (⟨s.hubs.size⟩, { s with hubs := s.hubs.push hub })

/-- Makes a discovery. -/
def addDiscovery (name channel : String) (s : Session) :
    Except ServiceError DiscoveryId × Session :=
  match s.client.channelDiscovery name channel s.world with
  | (.error e, client, w) => (.error e, { s with client }.setWorld w)
  | (.ok d, client, w) =>
    (.ok ⟨s.discoveries.size⟩,
      { s with client, discoveries := s.discoveries.push d }.setWorld w)

/-- Makes a proposal. -/
def addProposal (kind : ProposalKind) (chaincode channel : String) (s : Session) :
    Except ActionError (ProposalId × Session) := do
  let proposal ← Proposal.new kind chaincode channel
  return (⟨s.proposals.size⟩, { s with proposals := s.proposals.push proposal })

/-- Makes a commit of a proposal. -/
def addCommit (proposal : Proposal) (s : Session) : Except ActionError (CommitId × Session) := do
  let commit ← Commit.ofProposal proposal
  return (⟨s.commits.size⟩, { s with commits := s.commits.push commit })

/-- Disconnects the nodes of all channels and forgets the channels. -/
def closeClient (s : Session) : Session :=
  let (client, w) := s.client.close s.world
  { s with client }.setWorld w

/-! ### Requests -/

/-- Sends through a discovery, which may be renewed on the way. -/
def throughDiscovery {m : Type → Type} [Monad m] {α : Type} (id : DiscoveryId)
    (send : ChannelDiscovery → World → m (Except ActionError α × ChannelDiscovery × World))
    (s : Session) : m (Except ActionError α × Session) :=
  match s.discoveries.get? id.index with
  | none => return (.error (.missingParameter "targets"), s)
  | some d => do
    let (result, d, w) ← send d s.world
    return (result, { s with discoveries := s.discoveries.set id.index d }.setWorld w)

/-- Keeps a proposal. -/
def setProposal (id : ProposalId) (p : Proposal) (s : Session) : Session :=
  { s with proposals := s.proposals.set id.index p }

/-- Sends a proposal to peers at once. -/
def sendToPeers (id : ProposalId) (p : Proposal) (timeout : Option Nat) (peers : List PeerId)
    (s : Session) : Option (Except ActionError ProposalResults × Session) := do
  let (results, p, w) ←
    p.sendTo (fun signed ids w => w.sendProposals signed timeout ids) peers s.world
  return (results, (s.setProposal id p).setWorld w)

/-- Sends a proposal for endorsement. -/
def endorse (id : ProposalId) (p : Proposal) (targets : Targets .peer) (r : EndorseRequest)
    (shuffle : String → List DiscoveredPeer → List DiscoveredPeer) (s : Session) :
    Option (Except ActionError ProposalResults × Session) :=
  match targets with
  | .nodes peers => s.sendToPeers id p r.timeout peers
  | .discovery d => do
    let (results, p, s) ← p.sendThrough
      (fun signed s => s.throughDiscovery d fun d w => d.endorse signed r shuffle w) s
    return (results, s.setProposal id p)

/-- Sends a proposal as a query. -/
def query (id : ProposalId) (p : Proposal) (targets : Targets .peer) (timeout : Option Nat)
    (s : Session) : Option (Except ActionError ProposalResults × Session) :=
  match targets with
  | .nodes peers => s.sendToPeers id p timeout peers
  | .discovery d => do
    let (results, p, s) ← p.sendThrough
      (fun signed s => do
        let (outcomes, s) ← s.throughDiscovery d fun d w => some (d.query signed timeout w)
        return (outcomes.map ProposalResults.ofOutcomes, s)) s
    return (results, s.setProposal id p)

/-- Sends a transaction. -/
def commit (c : Commit) (targets : Targets .orderer) (timeout : Option Nat)
    (mspid : Option String) (shuffle : List OrdererId → List OrdererId) (s : Session) :
    Except ActionError BroadcastResponse × Session :=
  c.sendThrough
    (fun _ s =>
      match targets with
      | .nodes orderers => s.onWorld (broadcast (World.broadcastTo timeout) orderers)
      | .discovery d =>
        Id.run <| s.throughDiscovery d fun d w => pure (d.commit timeout mspid shuffle w)) s

/-! ### Discoveries -/

/-- Lets a discovery act. -/
def withDiscovery {α : Type} (id : DiscoveryId) (d : ChannelDiscovery)
    (act : ChannelDiscovery → World → α × ChannelDiscovery × World) (s : Session) : α × Session :=
  let (result, d, w) := act d s.world
  (result, { s with discoveries := s.discoveries.set id.index d }.setWorld w)

/-! ### Hubs -/

/-- The outside world as a hub of the session sees it. -/
def surroundings (id : HubId) : Surroundings Stage StreamSource where
  handOver := Audience.handOver
    (fun f stage => { stage with audience := f stage.audience }) Stage.audience id
  release source stage := { stage with world := stage.world.releaseSource source }
  connectionInfo source stage := stage.world.connectionInfo source.eventer

/-- Keeps a hub. -/
def setHub (id : HubId) (h : EventHub StreamSource) (s : Session) : Session :=
  { s with hubs := s.hubs.set id.index h }

/-- Registers a listener at a hub under a name. -/
def register (id : HubId) (name : String) (listener : EventListener) (ear : Ear) (s : Session) :
    Option (ListenerHandle × Session) := do
  let hub ← s.hubs.get? id.index
  let (handle, hub) := hub.register listener
  let audience := s.stage.audience.enrol ⟨name, id, handle, ear⟩
  return (handle, { s.setHub id hub with stage := { s.stage with audience } })

/-- Removes a listener from a hub. -/
def unregister (id : HubId) (handle : ListenerHandle) (s : Session) : Option (Bool × Session) := do
  let hub ← s.hubs.get? id.index
  let (removed, hub) := hub.unregister handle
  return (removed, s.setHub id hub)

/-- Closes a hub. -/
def closeHub (id : HubId) (s : Session) : Option Session := do
  let hub ← s.hubs.get? id.index
  let (hub, stage) ← hub.close (surroundings id) s.stage
  return { s.setHub id hub with stage }

/-- Opens a stream for a hub at an event source. -/
def beginStream (eventer : EventerId) (blockType : BlockType) (envelope : Envelope)
    (timeout : Option Nat) (stage : Stage) :
    Except ServiceError (StreamSource × DeliverResponse) × Stage :=
  let (started, world) := stage.world.beginStream eventer blockType envelope timeout
  (started, { stage with world })

/-- Lets a hub read what its stream brings. -/
def readHub (id : HubId) (s : Session) : Option Session := do
  let hub ← s.hubs.get? id.index
  match hub.state.stream with
  | none => return s
  | some stream =>
    let (events, world) := s.world.takeEvents stream.source.feed
    let (hub, stage) ←
      hub.readEvents (surroundings id) stream.generation events { s.stage with world }
    return { s.setHub id hub with stage }

/-- Lets all hubs read what their streams bring. -/
def settle (s : Session) : Option Session :=
  (List.range s.hubs.size).foldlM (fun s i => s.readHub ⟨i⟩) s

/-- Sends the request of a hub to event sources, and lets the hub read what there is. -/
def sendHub (id : HubId) (targets : List EventerId) (timeout : Option Nat) (s : Session) :
    Option (Except EventHubError Unit × Session) := do
  let hub ← s.hubs.get? id.index
  let (sent, hub, stage) ← hub.send (surroundings id) beginStream targets timeout s.stage
  return (sent, ← { s.setHub id hub with stage }.settle)

/-- What the listeners have received since this was last asked for. -/
def collect (s : Session) : List Heard × Session :=
  let (heard, audience) := s.stage.audience.collect
  (heard, { s with stage := { s.stage with audience } })

end Session

end LedgerClient
