import LedgerClient.Document.Result
import LedgerClient.Scenario.Desk

/-!
# Steps about nodes and channels

Makes nodes, connects them, asks them for things directly, and assigns them to channels.
-/

namespace LedgerClient.Scenario

open Work

/-! ### Nodes -/

/-- The document of a node; that of a peer also tells what discovery has found out. -/
def nodeDocument (n : AnyNode) : Work Document := do
  let w ← world
  let l ← w.link? n.id
  let more ← match n with
    | ⟨(id : PeerId)⟩ => do
      let p ← w.peers.get? id.index
      pure [("ledger_height", shown p.ledgerHeight), ("chaincodes", shown p.chaincodes)]
    | _ => pure []
  return .object <|
    [("name", shown l.name), ("connected", shown l.isConnected), ("info", shown l.connectionInfo),
      ("mspid", shown l.mspid), ("endpoint", shown l.endpoint), ("kind", shown l.kind.label),
      ("tls", shown l.isTls), ("request_timeout_ms", shown (l.requestTimeout none)),
      ("service", .done (l.service.map fun _ => ()))] ++ more

/-- Shows a node. -/
def nodeState : Step := fun d => do
  answer (← nodeDocument (← node (← text d "id")))

/-- Makes a node, which the client connects if a url is given. -/
def makeNode (k : NodeKind) : Step := fun d => do
  let name ← text d "name"
  let mspid : Option String ← d.get? "mspid"
  let url : Option String ← d.get? "url"
  let client := (← session).client
  let made ← onWorld fun w =>
    match url with
    | none => let (id, w) := w.addNode k name mspid; (.ok id, w)
    | some url => client.connectNode k name url mspid w
  orFault made fun id => do
    nameNode (← text d "id") ⟨id⟩
    nodeState d

/-- Makes a node of the kind that the step names. -/
def newNode : Step := fun d => do
  match ← text d "kind" with
  | "peer" => makeNode .peer d
  | "orderer" => makeNode .orderer d
  | "eventer" => makeNode .eventer d
  | "discoverer" => makeNode .discoverer d
  | _ => unclear

/-- Connects a node to a url, with limits of its own if the step gives any. -/
def connectNode : Step := fun d => do
  let n ← node (← text d "id")
  let connectTimeout : Option Nat ← d.get? "connect_ms"
  let requestTimeout : Option Nat ← d.get? "request_ms"
  orFault (Endpoint.parse (← text d "url")) fun endpoint => do
    let options : EndpointOptions :=
      { connectTimeout := connectTimeout.getD endpoint.options.connectTimeout
        requestTimeout := requestTimeout.getD endpoint.options.requestTimeout }
    orFault (← onWorld fun w => w.connect n.id { endpoint with options }) fun () => nodeState d

/-- Disconnects a node. -/
def disconnectNode : Step := fun d => do
  let n ← node (← text d "id")
  setWorld ((← world).disconnect n.id)
  nodeState d

/-- Tells whether a node is connected and ready. -/
def checkNode : Step := fun d => do
  let n ← node (← text d "id")
  answer (← onWorld fun w => w.check n.id)

/-- Connects an event source again, if it is not connected. -/
def ensureConnected : Step := fun d => do
  match ← node (← text d "id") with
  | ⟨(id : EventerId)⟩ =>
    orFault (← onWorld fun w => w.ensureConnected id) fun () => answer true
  | _ => unclear

/-- Asks a node for what its service does. A stream is let go at once. -/
def askNode : Step := fun d => do
  let timeout : Option Nat ← d.get? "timeout_ms"
  match ← node (← text d "id") with
  | ⟨(id : PeerId)⟩ => do
    let proposal : SignedProposal ← d.get? "proposal"
    let result ← onWorld fun w => World.settle (w.sendProposal proposal timeout id)
    return .answer (result.map shown)
  | ⟨(id : OrdererId)⟩ => do
    let _ : Envelope ← d.get? "envelope"
    let result ← onWorld fun w => w.sendBroadcast timeout id
    return .answer (result.map shown)
  | ⟨(id : DiscovererId)⟩ => do
    let request : SignedRequest ← d.get? "request"
    let result ← onWorld fun w => w.sendDiscovery request timeout id
    return .answer (result.map shown)
  | ⟨(id : EventerId)⟩ => do
    let envelope : Envelope ← d.get? "envelope"
    let blockType : BlockType ← d.get? "block_type"
    orFault (← onWorld fun w => w.openStream blockType envelope timeout id) fun opened => do
      setWorld ((← world).dropFeed opened)
      answer "stream"

/-- Reads a chaincode; its name alone will do. -/
def readChaincode? : Document → Option InstalledChaincode
  | .text name => some { name }
  | d => Form.read? d

/-- Notes the ledger height and chaincodes of a peer. -/
def discoveredState : Step := fun d => do
  let height : BlockNumber ← d.get? "height"
  let chaincodes : List Document ← d.get? "chaincodes"
  let chaincodes ← (chaincodes.mapM readChaincode? : Option _)
  let ask : List String ← d.get? "ask"
  match ← node (← text d "id") with
  | ⟨(id : PeerId)⟩ => do
    let w ← world
    let peers := w.peers.modify id.index (Peer.setDiscoveredState height chaincodes)
    setWorld { w with peers }
    let p ← peers.get? id.index
    report [("has", shown (ask.map p.hasChaincode))]
  | _ => unclear

/-! ### Channels -/

/-- The document of a channel, with the nodes of one organization if one is given. -/
def channelDocument (c : Channel) (mspid : Option String) : Work Document := do
  let w ← world
  let endorsers ← (w.ofMsp mspid c.endorsers.values).mapM fun id => do
    let p ← w.peers.get? id.index
    return .list [shown p.link.name, shown p.link.mspid, shown p.link.connectionInfo.url,
      shown p.link.isConnected, shown p.ledgerHeight, shown p.chaincodes]
  let committers ← (w.ofMsp mspid c.committers.values).mapM fun id => do
    let l ← w.link? id
    return .list [shown l.name, shown l.mspid, shown l.connectionInfo.url, shown l.isConnected]
  return .object [("name", shown c.name), ("endorsers", .list endorsers),
    ("committers", .list committers), ("msps", shown c.msps.keys)]

/-- Does something with a channel, which is made if need be. -/
def withChannel (d : Document) (act : ChannelId → Channel → Work Document) : Work Document := do
  let name ← text d "channel"
  orFault (← onSession fun s => s.channel name) fun id => do
    act id (← (← world).channel? id)

/-- Replaces a channel. -/
def setChannel (id : ChannelId) (c : Channel) : Work Unit := do
  setWorld ((← world).setChannel id c)

/-- Shows a channel. -/
def channelState : Step := fun d => do
  let mspid : Option String ← d.get? "mspid"
  withChannel d fun _ c => do answer (← channelDocument c mspid)

/-- Adds a node to a channel. -/
def addNode (add : AnyNode → World → Bool → Channel → Option (Except ServiceError Channel)) :
    Step := fun d => do
  let n ← node (← text d "id")
  let replace : Bool ← d.get? "replace"
  withChannel d fun channel c => do
    orFault (← add n (← world) replace c) fun c => do
      setChannel channel c
      answer (← channelDocument c none)

/-- Adds a peer to a channel. -/
def addEndorser : Step := addNode fun n w replace c =>
  match n with
  | ⟨(id : PeerId)⟩ => some (c.addEndorser (w.nameOf id) id replace)
  | _ => none

/-- Adds an orderer to a channel. -/
def addCommitter : Step := addNode fun n w replace c =>
  match n with
  | ⟨(id : OrdererId)⟩ => some (c.addCommitter (w.nameOf id) id replace)
  | _ => none

/-- Removes a node from a channel, and tells whether it was there. -/
def removeNode (remove : String → Channel → Bool × Channel) : Step := fun d => do
  let name ← text d "name"
  withChannel d fun channel c => do
    let (removed, c) := remove name c
    setChannel channel c
    answer removed

/-- Shows the name of a node of a channel, if it is there. -/
def findNode (find : String → Channel → World → Option String) : Step := fun d => do
  let name ← text d "name"
  withChannel d fun _ c => do answer (find name c (← world))

/-- Adds a membership service provider to a channel. -/
def addMsp : Step := fun d => do
  let id ← text d "id"
  let name ← text d "name"
  let tlsRootCerts : List String ← d.get? "roots"
  let replace : Bool ← d.get? "replace"
  withChannel d fun channel c =>
    orFault (c.addMsp { id, name, tlsRootCerts } replace) fun c => do
      setChannel channel c
      answer c.msps.keys

/-- Shows a membership service provider of a channel. -/
def findMsp : Step := fun d => do
  let id ← text d "id"
  withChannel d fun _ c => answer (c.msps.get? id)

/-- Disconnects the nodes of a channel. -/
def closeChannel : Step := fun d =>
  withChannel d fun channel _ => do
    setWorld ((← world).closeChannel channel)
    answer true

/-- Disconnects the nodes of all channels and forgets the channels. -/
def closeClient : Step := fun _ => do
  setSession (← session).closeClient
  answer true

/-- The steps about nodes and channels. -/
def nodeSteps : List (String × Step) := [
  ("node", newNode), ("node_state", nodeState), ("connect", connectNode),
  ("disconnect", disconnectNode), ("check", checkNode), ("ensure_connected", ensureConnected),
  ("request", askNode), ("discovered_state", discoveredState), ("channel_state", channelState),
  ("add_endorser", addEndorser), ("add_committer", addCommitter),
  ("remove_endorser", removeNode Channel.removeEndorser),
  ("remove_committer", removeNode Channel.removeCommitter),
  ("get_endorser", findNode fun name c w => (c.endorsers.get? name).map (w.nameOf ·)),
  ("get_committer", findNode fun name c w => (c.committers.get? name).map (w.nameOf ·)),
  ("add_msp", addMsp), ("get_msp", findMsp), ("channel_close", closeChannel),
  ("client_close", closeClient)]

end LedgerClient.Scenario
