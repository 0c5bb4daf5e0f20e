import LedgerClient.Network.Site
import LedgerClient.Node.Channel
import LedgerClient.Request.Outcome

/-!
# The world of a client

The remote services with the clock, the nodes and channels that the client has made, and
what happens when a node is connected, asked or let go. Requests that are made at once share
their waiting time: the clock moves by the longest of them.
-/

namespace LedgerClient

/-- Where a hub's stream comes from: the event source and the stream it opened. -/
structure StreamSource where
  eventer : EventerId
  feed : FeedId
  deriving DecidableEq, Repr

/-- A channel that the client has made. -/
structure ChannelId where
  index : Nat
  deriving DecidableEq, Repr, Inhabited

/-- Everything outside the requests of a client. -/
structure World where
  network : Network := {}
  peers : Table (Peer SiteId) := {}
  orderers : Table (Link SiteId) := {}
  eventers : Table (Eventer SiteId Unit) := {}
  discoverers : Table (Link SiteId) := {}
  channels : Table Channel := {}

namespace World

/-! ### The network -/

/-- Lets time pass, in milliseconds. -/
def elapse (ms : Nat) (w : World) : World :=
  { w with network := { w.network with clock := w.network.clock + ms } }

/-- How the services of an exchange are reached. -/
def reach {β : Type} (get : Network → Exchange β) (set : Exchange β → Network → Network) :
    Transport World SiteId where
  dial e w :=
    let (reply, x) := (get w.network).dial e
    (reply, { w with network := set x w.network })
  ready id w := (get w.network).readiness id
  close id w := { w with network := set ((get w.network).close id) w.network }
  elapse := elapse

/-- How the service of a kind of node is reached. -/
def transport : NodeKind → Transport World SiteId
  | .peer => reach Network.endorsers fun x n => { n with endorsers := x }
  | .orderer => reach Network.orderers fun x n => { n with orderers := x }
  | .eventer => reach Network.deliveries fun x n => { n with deliveries := x }
  | .discoverer => reach Network.discoveries fun x n => { n with discoveries := x }

/-! ### Nodes -/

/-- The link of a node. -/
def link? : {k : NodeKind} → NodeId k → World → Option (Link SiteId)
  | .peer, id, w => (w.peers.get? id.index).map Peer.link
  | .orderer, id, w => w.orderers.get? id.index
  | .eventer, id, w => (w.eventers.get? id.index).map Eventer.link
  | .discoverer, id, w => w.discoverers.get? id.index

/-- Replaces the link of a node. -/
def setLink : {k : NodeKind} → NodeId k → Link SiteId → World → World
  | .peer, id, l, w => { w with peers := w.peers.modify id.index fun p => { p with link := l } }
  | .orderer, id, l, w => { w with orderers := w.orderers.set id.index l }
  | .eventer, id, l, w =>
    { w with eventers := w.eventers.modify id.index fun v => { v with link := l } }
  | .discoverer, id, l, w => { w with discoverers := w.discoverers.set id.index l }

/-- Makes a node that is not connected. -/
def addNode : (k : NodeKind) → (name : String) → Option String → World → NodeId k × World
  | .peer, name, mspid, w =>
    (⟨w.peers.size⟩, { w with peers := w.peers.push { link := { name, kind := .endorser, mspid } } })
  | .orderer, name, mspid, w =>
    (⟨w.orderers.size⟩, { w with orderers := w.orderers.push { name, kind := .broadcast, mspid } })
  | .eventer, name, mspid, w =>
    (⟨w.eventers.size⟩,
      { w with eventers := w.eventers.push { link := { name, kind := .eventer, mspid } } })
  | .discoverer, name, mspid, w =>
    (⟨w.discoverers.size⟩,
      { w with discoverers := w.discoverers.push { name, kind := .discovery, mspid } })

/-- The details of a node. -/
def connectionInfo {k : NodeKind} (id : NodeId k) (w : World) : ConnectionInfo :=
  ((w.link? id).map Link.connectionInfo).getD {}

/-- Connects a node to an endpoint. -/
def connect : {k : NodeKind} → NodeId k → Endpoint → World → Except ServiceError Unit × World
  | .eventer, id, e, w =>
    match w.eventers.get? id.index with
    | none => (.error (.notConnected {}), w)
    | some v =>
      let (result, v, w) := v.connect (fun () => transport .eventer) e () w
      (result, { w with eventers := w.eventers.set id.index v })
  | k, id, e, w =>
    match w.link? id with
    | none => (.error (.notConnected {}), w)
    | some l =>
      let (result, l, w) := l.connect (transport k) e w
      (result, w.setLink id l)

/-- Connects an event source again, if it is not connected. -/
def ensureConnected (id : EventerId) (w : World) : Except ServiceError Unit × World :=
  match w.eventers.get? id.index with
  | none => (.error (.notConnected {}), w)
  | some v =>
    let (result, v, w) := v.ensureConnected (fun () => transport .eventer) w
    (result, { w with eventers := w.eventers.set id.index v })

/-- Disconnects a node. -/
def disconnect {k : NodeKind} (id : NodeId k) (w : World) : World :=
  match w.link? id with
  | none => w
  | some l =>
    let (l, w) := l.disconnect (transport k) w
    w.setLink id l

/-- Whether a node is connected and ready in time. -/
def check {k : NodeKind} (id : NodeId k) (w : World) : Bool × World :=
  match w.link? id with
  | none => (false, w)
  | some l => l.check (transport k) w

/-! ### Requests -/

/-- A request to the service of a node, its waiting time not yet passed. -/
def call {k : NodeKind} {α : Type} (operation : Operation) (timeout : Option Nat)
    (request : SiteId → Network → Reply α × Network) (id : NodeId k) (w : World) :
    (Except ServiceError α × Nat) × World :=
  match w.link? id with
  | none => ((.error (.notConnected {}), 0), w)
  | some l =>
    l.call operation timeout (fun site w =>
      let (reply, network) := request site w.network
      (reply, { w with network })) w

/-- Lets the waiting time of a single request pass. -/
def settle {α : Type} (r : (Except ServiceError α × Nat) × World) : Except ServiceError α × World :=
  (r.1.1, r.2.elapse r.1.2)

/-- A proposal at an endorsing peer. -/
def proposalAt (proposal : SignedProposal) (site : SiteId) (n : Network) :
    Reply ProposalResponse × Network :=
  let (reply, x) := n.endorsers.request site fun b =>
    (b.reply, { b with calls := b.calls + 1, last := some proposal })
  (reply, { n with endorsers := x })

/-- Sends a proposal to a peer. -/
def sendProposal (proposal : SignedProposal) (timeout : Option Nat) (id : PeerId) (w : World) :
    (Except ServiceError ProposalResponse × Nat) × World :=
  w.call .sendProposal timeout (proposalAt proposal) id

/-- What became of a proposal at a peer. -/
def proposalOutcome (id : PeerId) (result : Except ServiceError ProposalResponse) (w : World) :
    PeerOutcome :=
  let connection := w.connectionInfo id
  { peer := connection.name, connection, result }

/-- Makes several requests at once; the clock moves by the longest waiting time. -/
def together {α β : Type} (request : α → World → (β × Nat) × World) (targets : List α)
    (w : World) : List β × World :=
  let rec go : List α → Nat → World → List β × World
    | [], longest, w => ([], w.elapse longest)
    | a :: rest, longest, w =>
      let ((b, ms), w) := request a w
      let (bs, w) := go rest (max longest ms) w
      (b :: bs, w)
  go targets 0 w

/-- Sends a proposal to several peers at once. -/
def sendProposals (proposal : SignedProposal) (timeout : Option Nat) (ids : List PeerId)
    (w : World) : List PeerOutcome × World :=
  together (fun id w =>
    let ((result, ms), w) := w.sendProposal proposal timeout id
    ((w.proposalOutcome id result, ms), w)) ids w

/-- A transaction at an ordering service. -/
def transactionAt (site : SiteId) (n : Network) : Reply BroadcastResponse × Network :=
  let (reply, x) := n.orderers.request site fun b => (b.reply, { b with calls := b.calls + 1 })
  (reply, { n with orderers := x })

/-- Sends a transaction to an orderer. -/
def sendBroadcast (timeout : Option Nat) (id : OrdererId) (w : World) :
    Except ServiceError BroadcastResponse × World :=
  settle (w.call .sendBroadcast timeout transactionAt id)

/-- A request at a discovery service. -/
def queriesAt (request : SignedRequest) (site : SiteId) (n : Network) :
    Reply DiscoveryResponse × Network :=
  let (reply, x) := n.discoveries.request site fun b =>
    (b.reply, { b with calls := b.calls + 1, last := some request })
  (reply, { n with discoveries := x })

/-- Sends a request to a discovery service. -/
def sendDiscovery (request : SignedRequest) (timeout : Option Nat) (id : DiscovererId)
    (w : World) : Except ServiceError DiscoveryResponse × World :=
  settle (w.call .sendDiscovery timeout (queriesAt request) id)

/-- A request for a stream at a delivery service: the next one that was arranged. -/
def streamAt (blockType : BlockType) (envelope : Envelope) (site : SiteId) (n : Network) :
    Reply FeedId × Network :=
  let (reply, x) := n.deliveries.request site fun b =>
    let b := { b with requests := b.requests ++ [(blockType, envelope)] }
    match b.upcoming with
    | [] => (.fail "no delivery stream available", b)
    | .ok feed :: rest => (.ok feed, { b with upcoming := rest })
    | .error reason :: rest => (.fail reason, { b with upcoming := rest })
  (reply, { n with deliveries := x })

/-- Opens a stream at an event source. -/
def openStream (blockType : BlockType) (envelope : Envelope) (timeout : Option Nat)
    (id : EventerId) (w : World) : Except ServiceError FeedId × World :=
  settle (w.call .deliver timeout (streamAt blockType envelope) id)

/-! ### Streams -/

/-- Lets go of a stream. -/
def dropFeed (id : FeedId) (w : World) : World :=
  { w with network := { w.network with feeds := w.network.feeds.modify id.index Feed.drop } }

/-- Takes everything out of a stream that can be read without waiting. -/
def takeEvents (id : FeedId) (w : World) : List StreamEvent × World :=
  match w.network.feeds.get? id.index with
  | none => ([], w)
  | some feed =>
    (feed.available,
      { w with network := { w.network with
          feeds := w.network.feeds.set id.index { feed with buffer := [] } } })

/-- Takes the first event out of a stream; none if it would have to be waited for. -/
def takeEvent? (id : FeedId) (w : World) : Option StreamEvent × World :=
  match w.network.feeds.get? id.index with
  | none => (none, w)
  | some feed =>
    match feed.available with
    | [] => (none, w)
    | event :: _ =>
      (some event,
        { w with network := { w.network with
            feeds := w.network.feeds.set id.index { feed with buffer := feed.buffer.drop 1 } } })

/-- Opens a stream at an event source and waits for its first message. A source that fails
to deliver one in time is disconnected; one that cannot be connected is left alone. -/
def beginStream (id : EventerId) (blockType : BlockType) (envelope : Envelope)
    (timeout : Option Nat) (w : World) :
    Except ServiceError (StreamSource × DeliverResponse) × World :=
  match w.ensureConnected id with
  | (.error e, w) => (.error e, w)
  | (.ok (), w) =>
    let limit := match w.link? id with
      | some l => l.requestTimeout timeout
      | none => 0
    let connection := w.connectionInfo id
    match w.openStream blockType envelope (some limit) id with
    | (.error e, w) => (.error e, w.disconnect id)
    | (.ok feed, w) =>
      let giveUp (e : ServiceError) (w : World) :
          Except ServiceError (StreamSource × DeliverResponse) × World :=
        (.error e, (w.dropFeed feed).disconnect id)
      match w.takeEvent? feed with
      | (some (.data first), w) => (.ok (⟨id, feed⟩, first), w)
      | (some (.failed reason), w) => giveUp (.transport connection .deliver reason) w
      | (some .ended, w) =>
        giveUp (.transport connection .deliver "stream ended before any data") w
      | (none, w) => giveUp (.timeout connection .startEventService limit) (w.elapse limit)

/-- Lets go of a hub's stream and disconnects its event source. -/
def releaseSource (source : StreamSource) (w : World) : World :=
  (w.dropFeed source.feed).disconnect source.eventer

/-! ### Channels -/

/-- Makes a channel. -/
def addChannel (name : String) (w : World) : Except ServiceError (ChannelId × World) := do
  let channel ← Channel.new name
  return (⟨w.channels.size⟩, { w with channels := w.channels.push channel })

/-- A channel. -/
def channel? (id : ChannelId) (w : World) : Option Channel :=
  w.channels.get? id.index

/-- Replaces a channel. -/
def setChannel (id : ChannelId) (c : Channel) (w : World) : World :=
  { w with channels := w.channels.set id.index c }

/-- The name of a node. -/
def nameOf {k : NodeKind} (id : NodeId k) (w : World) : String :=
  ((w.link? id).map Link.name).getD ""

/-- The organization of a node. -/
def mspidOf {k : NodeKind} (id : NodeId k) (w : World) : Option String :=
  (w.link? id).bind Link.mspid

/-- Those of some nodes that belong to an organization; all of them if none is given. -/
def ofMsp {k : NodeKind} (mspid : Option String) (ids : List (NodeId k)) (w : World) :
    List (NodeId k) :=
  match mspid with
  | none => ids
  | some mspid => ids.filter fun id => w.mspidOf id == some mspid

/-- Disconnects all nodes of a channel. -/
def closeChannel (id : ChannelId) (w : World) : World :=
  match w.channel? id with
  | none => w
  | some c =>
    let w := c.endorsers.values.foldl (fun w peer => w.disconnect peer) w
    c.committers.values.foldl (fun w orderer => w.disconnect orderer) w

end World

end LedgerClient
