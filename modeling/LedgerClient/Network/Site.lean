import LedgerClient.Data.SortedMap
import LedgerClient.Data.Table
import LedgerClient.Event.Hub
import LedgerClient.Message.Wire
import LedgerClient.Node.Link

/-!
# Services in memory

Remote services that live in the same process: what they answer is written down
beforehand, and what they are asked is recorded. An exchange holds the services of one kind
with their addresses and does what a network would do when somebody dials.
-/

namespace LedgerClient

/-- A service in memory. -/
structure SiteId where
  index : Nat
  deriving DecidableEq, Repr, Inhabited

/-- A stream of blocks that a delivery service hands out. -/
structure FeedId where
  index : Nat
  deriving DecidableEq, Repr, Inhabited

/-- A service, with its behaviour `β`. -/
structure Site (β : Type) where
  behaviour : β
  readiness : Reply Unit := .ok ()
  closed : Bool := false
  deriving Repr

/-- An endorsing peer. -/
structure EndorserSite where
  reply : Reply ProposalResponse
  calls : Nat := 0
  last : Option SignedProposal := none
  deriving Repr

/-- An ordering service. -/
structure OrdererSite where
  reply : Reply BroadcastResponse
  calls : Nat := 0
  deriving Repr

/-- A delivery service: what it hands out for the next requests, and the requests so far. -/
structure DeliverySite where
  upcoming : List (Except String FeedId) := []
  requests : List (BlockType × Envelope) := []

/-- A discovery service. -/
structure DiscoverySite where
  reply : Reply DiscoveryResponse
  calls : Nat := 0
  last : Option SignedRequest := none
  deriving Repr

/-- The events of a stream that have not been read yet, and which of its two ends are still
in use. -/
structure Feed where
  buffer : List StreamEvent := []
  senderOpen : Bool := true
  receiverOpen : Bool := true
  deriving Repr

namespace Feed

/-- Sends an event, and tells whether somebody may still read it. -/
def send (event : StreamEvent) (f : Feed) : Bool × Feed :=
  if f.receiverOpen && f.senderOpen then (true, { f with buffer := f.buffer ++ [event] })
  else (false, f)

/-- Sends events in order. -/
def sendAll : List StreamEvent → Feed → List Bool × Feed
  | [], f => ([], f)
  | event :: rest, f =>
    let (sent, f) := f.send event
    let (more, f) := sendAll rest f
    (sent :: more, f)

/-- The reader lets go of the stream. -/
def drop (f : Feed) : Feed := { f with buffer := [], receiverOpen := false }

/-- All that a reader gets before it has to wait: the buffered events, and the end if the
sender has let go. -/
def available (f : Feed) : List StreamEvent :=
  if f.senderOpen then f.buffer else f.buffer ++ [.ended]

end Feed

/-- The services of one kind. -/
structure Exchange (β : Type) where
  sites : Table (Site β) := {}
  addresses : SortedMap String SiteId := ∅
  /-- Addresses where dialling never ends. -/
  hanging : List String := []
  /-- Every endpoint that was dialled successfully, in order. -/
  connected : List Endpoint := []

namespace Exchange

variable {β : Type}

/-- Puts a new service at an address. -/
def install (address : String) (behaviour : β) (readiness : Reply Unit) (x : Exchange β) :
    Exchange β :=
  { x with
    sites := x.sites.push { behaviour, readiness }
    addresses := x.addresses.insert address ⟨x.sites.size⟩ }

/-- The service at an address. -/
def at? (address : String) (x : Exchange β) : Option (SiteId × Site β) := do
  let id ← x.addresses.get? address
  return (id, ← x.sites.get? id.index)

/-- Changes a service. -/
def modify (id : SiteId) (f : Site β → Site β) (x : Exchange β) : Exchange β :=
  { x with sites := x.sites.modify id.index f }

/-- What dialling an endpoint brings. -/
def dial (e : Endpoint) (x : Exchange β) : Reply SiteId × Exchange β :=
  if x.hanging.contains e.address then (.hang, x)
  else
    match x.addresses.get? e.address with
    | some id => (.ok id, { x with connected := x.connected ++ [e] })
    | none => (.fail s!"connection refused: {e.address}", x)

/-- Whether a service is ready. -/
def readiness (id : SiteId) (x : Exchange β) : Reply Unit :=
  match x.sites.get? id.index with
  | some site => site.readiness
  | none => .hang

/-- Notes that a client of a service was closed. -/
def close (id : SiteId) (x : Exchange β) : Exchange β :=
  x.modify id fun site => { site with closed := true }

/-- Lets a service answer a request by its behaviour. -/
def request {α : Type} (id : SiteId) (answer : β → Reply α × β) (x : Exchange β) :
    Reply α × Exchange β :=
  match x.sites.get? id.index with
  | some site =>
    let (reply, behaviour) := answer site.behaviour
    (reply, x.modify id fun site => { site with behaviour })
  | none => (.hang, x)

/-- Makes dialling an address hang, or stops that; tells whether anything changed. -/
def setHanging (address : String) (on : Bool) (x : Exchange β) : Bool × Exchange β :=
  let was := x.hanging.contains address
  (was != on,
    { x with hanging :=
        if on then (if was then x.hanging else address :: x.hanging)
        else x.hanging.filter (· != address) })

end Exchange

/-- All services in memory, and the clock in milliseconds. -/
structure Network where
  clock : Nat := 0
  endorsers : Exchange EndorserSite := {}
  orderers : Exchange OrdererSite := {}
  deliveries : Exchange DeliverySite := {}
  discoveries : Exchange DiscoverySite := {}
  feeds : Table Feed := {}

end LedgerClient
