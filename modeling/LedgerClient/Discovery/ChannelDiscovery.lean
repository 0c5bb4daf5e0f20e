import LedgerClient.Discovery.ChannelConfig
import LedgerClient.Discovery.DiscoveredPeer
import LedgerClient.Discovery.Queries
import LedgerClient.Network.World

/-!
# Channel discovery

Asks discovery services about a channel, brings the client's picture of the channel up to
date with the first answer, and keeps the answer until it is too old. An answer is read
completely before anything is done with it, so one that cannot be read changes nothing.

Nodes that the channel has already are left as they are, except that the published state of
a peer is noted. A node that cannot be connected is left out; the next answer that names it
gives it another chance.
-/

namespace LedgerClient

/-- How a discovery behaves unless told otherwise; times in milliseconds. -/
structure DiscoveryConfig where
  requestTimeout : Option Nat := none
  refreshAge : Nat := 300000
  asLocalhost : Bool := false
  /-- The protocol for discovered nodes; that of the answering service if none is given. -/
  protocol : Option Protocol := none
  deriving DecidableEq, Repr, Inhabited

/-- What a discovery answer says. -/
structure DiscoveryTree where
  msps : SortedMap String MspInfo := ∅
  orderers : SortedMap String (List OrdererAddress) := ∅
  peersByOrg : SortedMap String (List DiscoveredPeer) := ∅
  localPeers : SortedMap String (List DiscoveredPeer) := ∅
  plan : Option EndorsementPlan := none
  deriving DecidableEq, Repr, Inhabited

namespace DiscoveryTree

/-- The members of the channel, organization by organization. -/
def members (t : DiscoveryTree) : List DiscoveredPeer :=
  t.peersByOrg.values.flatten

/-- The peers of the plan, group by group. -/
def planPeers (t : DiscoveryTree) : List DiscoveredPeer :=
  match t.plan with
  | some plan => plan.groups.values.flatten
  | none => []

/-- The peers that belong to the channel: its members, then those of the plan. -/
def channelPeers (t : DiscoveryTree) : List DiscoveredPeer :=
  t.members ++ t.planPeers

/-- The orderers with the id of their provider. -/
def channelOrderers (t : DiscoveryTree) : List (String × OrdererAddress) :=
  t.orderers.entries.flatMap fun (mspid, addresses) => addresses.map (mspid, ·)

/-- The tree with the answer to one query taken in. -/
def take (tag : Option QueryTag) (result : QueryResult) (t : DiscoveryTree) :
    Except DiscoveryError DiscoveryTree := do
  match result with
  | .error content => .error (.remote content)
  | .config config =>
    return { t with msps := decodeMsps config, orderers := decodeOrderers config }
  | .members members =>
    if tag = some .localPeers then return { t with localPeers := ← decodeMembers false members }
    else return { t with peersByOrg := ← decodeMembers true members }
  | .chaincodes result => return { t with plan := some (← decodePlan result) }

/-- Takes in the answers to a list of queries in order, of several to one kind of query the
last one; an answer without a query of its own has no tag. -/
def takeAll : List QueryTag → List QueryResult → DiscoveryTree → Except DiscoveryError DiscoveryTree
  | _, [], t => .ok t
  | tags, result :: rest, t => do takeAll tags.tail rest (← t.take tags.head? result)

/-- What a response says. -/
def ofResponse (tags : List QueryTag) (response : DiscoveryResponse) :
    Except DiscoveryError DiscoveryTree :=
  takeAll tags response.results {}

end DiscoveryTree

/-- A tree that has been processed, and when. -/
structure DiscoveryResults where
  tree : DiscoveryTree
  /-- When the processing was complete, in milliseconds. -/
  timestamp : Nat
  /-- Counts the trees that a discovery has processed. -/
  serial : Nat
  deriving DecidableEq, Repr, Inhabited

/-- Whether results are older than a given age. -/
def DiscoveryResults.isStale (r : DiscoveryResults) (age now : Nat) : Bool :=
  age < now - r.timestamp

/-! ### Bringing a channel up to date -/

namespace World

/-- How nodes are reached that an answer names. -/
structure Reach where
  protocol : Protocol
  asLocalhost : Bool

/-- The endpoint of a discovered node of an organization. -/
def Reach.endpoint (r : Reach) (host : String) (port : UInt16) (mspid : String) (c : Channel) :
    Endpoint :=
  discoveredEndpoint host port r.protocol r.asLocalhost (c.msps.get? mspid)

/-- Adds providers to a channel, in place of those it has under the same ids. -/
def addMsps (id : ChannelId) (msps : List MspInfo) (w : World) : World :=
  match w.channel? id with
  | none => w
  | some c =>
    w.setChannel id { c with msps := msps.foldl (fun m msp => m.insert msp.id msp) c.msps }

/-- Adds an orderer to a channel, if it is new and can be connected. -/
def addOrderer (id : ChannelId) (r : Reach) (mspid : String) (address : OrdererAddress)
    (w : World) : World :=
  match w.channel? id with
  | none => w
  | some c =>
    if c.committers.contains address.name then w
    else
      let (orderer, w) := w.addNode .orderer address.name (some mspid)
      match w.connect orderer (r.endpoint address.host address.port mspid c) with
      | (.error _, w) => w
      | (.ok (), w) =>
        w.setChannel id { c with committers := c.committers.insert address.name orderer }

/-- Notes what an answer says about the ledger of a peer. -/
def noteState (peer : PeerId) (d : DiscoveredPeer) (w : World) : World :=
  match d.ledgerHeight with
  | some height =>
    { w with peers := w.peers.modify peer.index (Peer.setDiscoveredState height d.chaincodes) }
  | none => w

/-- Adds a peer to a channel, if it is new and can be connected, and notes its state. -/
def addPeer (id : ChannelId) (r : Reach) (d : DiscoveredPeer) (w : World) : World :=
  match w.channel? id with
  | none => w
  | some c =>
    match c.endorsers.get? d.name with
    | some known => w.noteState known d
    | none =>
      let (peer, w) := w.addNode .peer d.name (some d.mspid)
      match w.connect peer (r.endpoint d.host d.port d.mspid c) with
      | (.error _, w) => w
      | (.ok (), w) =>
        (w.setChannel id { c with endorsers := c.endorsers.insert d.name peer }).noteState peer d

/-- Brings a channel up to date with a tree: providers first, then orderers, then peers. -/
def materialize (id : ChannelId) (r : Reach) (t : DiscoveryTree) (w : World) : World :=
  let w := w.addMsps id t.msps.values
  let w := t.channelOrderers.foldl (fun w o => w.addOrderer id r o.1 o.2) w
  t.channelPeers.foldl (fun w d => w.addPeer id r d) w

end World

/-! ### Sending and keeping -/

/-- The settings of a send, kept for a refresh. -/
structure SendSettings where
  targets : List DiscovererId
  timeout : Option Nat
  asLocalhost : Bool
  refreshAge : Nat
  deriving DecidableEq, Repr, Inhabited

/-- The wishes for a send; what is not given comes from the configuration. -/
structure DiscoverRequest where
  targets : List DiscovererId
  timeout : Option Nat := none
  asLocalhost : Option Bool := none
  refreshAge : Option Nat := none
  deriving DecidableEq, Repr, Inhabited

/-- The discovery of a channel. -/
structure ChannelDiscovery where
  name : String
  channel : ChannelId
  config : DiscoveryConfig
  request : QueryList := {}
  /-- The settings of the last send that had targets and a signed request. -/
  last : Option SendSettings := none
  results : Option DiscoveryResults := none
  deriving DecidableEq, Repr

namespace ChannelDiscovery

/-- Lets a call act on the request of a discovery. -/
def onRequest {α : Type} (x : RequestM DiscoveryError QueryList α) :
    RequestM DiscoveryError ChannelDiscovery α :=
  .onPart request (fun request d => { d with request }) x

/-- Builds the request for the channel as it is in some world; the answer is its payload. -/
def building (signer : Signer) (wish : DiscoveryWish) (w : World) :
    RequestM DiscoveryError ChannelDiscovery Bytes := do
  let d ← get
  let channel := ((w.channel? d.channel).map Channel.name).getD ""
  onRequest (QueryList.building signer channel wish)

/-- Signs the built request. -/
def signing (signer : Signer) : RequestM DiscoveryError ChannelDiscovery Unit :=
  onRequest (QueryList.signing signer)

/-- Attaches a signature made elsewhere. -/
def attaching (signature : Bytes) : RequestM DiscoveryError ChannelDiscovery Unit :=
  onRequest (QueryList.attaching signature)

/-- The discovery after building. -/
def build (signer : Signer) (wish : DiscoveryWish) (d : ChannelDiscovery) (w : World) :
    Except DiscoveryError ChannelDiscovery :=
  (building signer wish w).after d

/-- The discovery after signing. -/
def sign (signer : Signer) (d : ChannelDiscovery) : Except DiscoveryError ChannelDiscovery :=
  (signing signer).after d

/-- The discovery after a signature made elsewhere was attached. -/
def signWith (signature : Bytes) (d : ChannelDiscovery) :
    Except DiscoveryError ChannelDiscovery :=
  (attaching signature).after d

/-- How the nodes are reached that an answer of a service names. -/
def reach (d : ChannelDiscovery) (target : DiscovererId) (asLocalhost : Bool) (w : World) :
    World.Reach where
  protocol := d.config.protocol.getD
    (if (w.link? target).any Link.isTls then .grpcs else .grpc)
  asLocalhost

/-- Reads a response completely, brings the channel up to date, and keeps the results. -/
def process (target : DiscovererId) (asLocalhost : Bool) (response : DiscoveryResponse)
    (d : ChannelDiscovery) (w : World) :
    Except DiscoveryError DiscoveryResults × ChannelDiscovery × World :=
  match DiscoveryTree.ofResponse d.request.tags response with
  | .error e => (.error e, d, w)
  | .ok tree =>
    let w := w.materialize d.channel (d.reach target asLocalhost w) tree
    let serial := match d.results with
      | some r => r.serial + 1
      | none => 1
    let results : DiscoveryResults := { tree, timestamp := w.network.clock, serial }
    (.ok results, { d with results := some results }, w)

/-- Asks the targets in order; the first that answers decides. -/
def askInOrder (signed : SignedRequest) (settings : SendSettings) (lastError : DiscoveryError)
    (d : ChannelDiscovery) :
    List DiscovererId → World → Except DiscoveryError DiscoveryResults × ChannelDiscovery × World
  | [], w => (.error lastError, d, w)
  | target :: rest, w =>
    match w.sendDiscovery signed settings.timeout target with
    | (.ok response, w) => d.process target settings.asLocalhost response w
    | (.error e, w) => askInOrder signed settings (.service e) d rest w

/-- Sends the signed request. -/
def send (r : DiscoverRequest) (d : ChannelDiscovery) (w : World) :
    Except DiscoveryError DiscoveryResults × ChannelDiscovery × World :=
  if r.targets.isEmpty then (.error (.missingParameter "targets"), d, w)
  else
    match d.request.signed with
    | .error e => (.error e, d, w)
    | .ok signed =>
      let settings : SendSettings :=
        { targets := r.targets
          timeout := r.timeout <|> d.config.requestTimeout
          asLocalhost := r.asLocalhost.getD d.config.asLocalhost
          refreshAge := r.refreshAge.getD d.config.refreshAge }
      askInOrder signed settings (.missingParameter "targets") { d with last := some settings }
        settings.targets w

/-- The request that repeats a send. -/
def SendSettings.toRequest (s : SendSettings) : DiscoverRequest :=
  { targets := s.targets
    timeout := s.timeout
    asLocalhost := some s.asLocalhost
    refreshAge := some s.refreshAge }

/-- The kept results; with `refresh` they are renewed first if they are too old. -/
def getResults (refresh : Bool) (d : ChannelDiscovery) (w : World) :
    Except DiscoveryError DiscoveryResults × ChannelDiscovery × World :=
  match d.results with
  | none => (.error .noResults, d, w)
  | some cached =>
    match d.last with
    | some last =>
      if refresh && cached.isStale last.refreshAge w.network.clock then
        d.send (SendSettings.toRequest last) w
      else (.ok cached, d, w)
    | none => (.ok cached, d, w)

/-- Disconnects the services that were asked last. -/
def close (d : ChannelDiscovery) (w : World) : World :=
  match d.last with
  | some last => last.targets.foldl (fun w target => w.disconnect target) w
  | none => w

end ChannelDiscovery

end LedgerClient
