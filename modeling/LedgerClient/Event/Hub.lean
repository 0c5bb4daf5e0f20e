import LedgerClient.Event.HubState
import LedgerClient.Request.Frame
import LedgerClient.Request.SignState

/-!
# Event hubs

A hub asks an event source for a stream of blocks and tells its listeners about them, until
it shuts down and tells each of them so. A listener's callback may itself register and
unregister listeners or close the hub. It does so while notices are being handed over, so
what it queues waits its turn behind what is already queued.

The outside world is a parameter: a state `ε` and `Surroundings`, which say what a callback
does, and how streams are let go. Callbacks that queue new notices for each other without
end are possible. An operation that would go on handing over notices for ever has no result.
-/

namespace LedgerClient

/-- What a callback does with its hub, step by step, up to the state of the world it leaves
behind. A callback that panics is one that stops early. -/
inductive Reaction (ε : Type) where
  | done (e : ε)
  | register (listener : EventListener) (next : ListenerHandle → Reaction ε)
  | unregister (handle : ListenerHandle) (next : Bool → Reaction ε)
  | close (e : ε) (next : ε → Reaction ε)

/-- The outside world as a hub sees it. -/
structure Surroundings (ε ι : Type) where
  /-- What the listener does that a notice is handed to. -/
  handOver : Delivery → ε → Reaction ε
  /-- Stops reading from an event source and disconnects it. -/
  release : ι → ε → ε
  /-- The connection details of an event source. -/
  connectionInfo : ι → ε → ConnectionInfo

namespace HubState

variable {ε ι : Type}

/-- Releases a stream that was taken out of a hub. -/
def releaseStream (w : Surroundings ε ι) (stream : Option (ActiveStream ι)) (e : ε) : ε :=
  match stream with
  | some a => w.release a.source e
  | none => e

/-- A shutdown while notices are being handed over: it only queues its own. -/
def closeQueued (w : Surroundings ε ι) (t : Termination) (s : HubState ι) (e : ε) :
    HubState ι × ε :=
  match s.beginClose (w.connectionInfo · e) t with
  | none => (s, e)
  | some (s, stream) => (s.endClose, releaseStream w stream e)

/-- Lets a callback act on the hub. -/
def react (w : Surroundings ε ι) (hub : String) : Reaction ε → HubState ι → HubState ι × ε
  | .done e, s => (s, e)
  | .register listener next, s =>
    let (handle, registry) := s.registry.insert listener
    react w hub (next handle) { s with registry }
  | .unregister handle next, s =>
    let (removed, registry) := s.registry.remove handle
    react w hub (next removed) { s with registry }
  | .close e next, s =>
    let (s, e) := closeQueued w (.closed hub) s e
    react w hub (next e) s

/-- Hands over queued notices until none is left. -/
def drain (w : Surroundings ε ι) (hub : String) (s : HubState ι) (e : ε) :
    Option (HubState ι × ε) :=
  match s.nextNotice with
  | (none, s) => some (s, e)
  | (some d, s) =>
    let (s, e) := react w hub (w.handOver d e) s
    s |>.drain w hub e
partial_fixpoint

/-- Hands over all queued notices, unless somebody else is doing so. -/
def flush (w : Surroundings ε ι) (hub : String) (s : HubState ι) (e : ε) :
    Option (HubState ι × ε) :=
  match s.beginDrain with
  | none => some (s, e)
  | some s => drain w hub s e

/-- Shuts the hub down: every listener is told, then the stream is released. -/
def closeWith (w : Surroundings ε ι) (hub : String) (t : Termination)
    (s : HubState ι) (e : ε) : Option (HubState ι × ε) :=
  match s.beginClose (w.connectionInfo · e) t with
  | none => some (s, e)
  | some (s, stream) => do
    let (s, e) ← flush w hub s e
    return (s.endClose, releaseStream w stream e)

/-- Handles a block of a stream. -/
def onBlock (w : Surroundings ε ι) (hub : String) (generation : Nat)
    (block : DeliveredBlock) (s : HubState ι) (e : ε) : Option (HubState ι × ε) :=
  if s.isCurrent generation then do
    let (reached, s) := s.receive hub block
    let (s, e) ← flush w hub s e
    if reached then closeWith w hub (.endBlock hub block.number) s e else return (s, e)
  else some (s, e)

/-- Shuts the hub down because of its stream, if the stream is still the current one. -/
def closeFor (w : Surroundings ε ι) (hub : String) (generation : Nat) (t : Termination)
    (s : HubState ι) (e : ε) : Option (HubState ι × ε) :=
  if s.isCurrent generation then closeWith w hub t s e else some (s, e)

/-- Handles a message of a stream. -/
def onMessage (w : Surroundings ε ι) (hub : String) (generation : Nat)
    (message : DeliverResponse) (s : HubState ι) (e : ε) : Option (HubState ι × ε) :=
  match message with
  | .status status =>
    closeFor w hub generation (s.statusTermination hub status) s e
  | message =>
    match DeliveredBlock.ofResponse hub message with
    | .ok (some block) => onBlock w hub generation block s e
    | .ok none => some (s, e)
    | .error t => closeFor w hub generation t s e

end HubState

/-- What a stream of blocks brings next. -/
inductive StreamEvent where
  | data (message : DeliverResponse)
  | ended
  | failed (reason : String)
  deriving DecidableEq, Repr

namespace HubState

variable {ε ι : Type}

/-- Handles what a stream brings. -/
def onEvent (w : Surroundings ε ι) (hub : String) (generation : Nat)
    (event : StreamEvent) (s : HubState ι) (e : ε) : Option (HubState ι × ε) :=
  match event with
  | .data message => onMessage w hub generation message s e
  | .ended => closeFor w hub generation (.streamEnded hub) s e
  | .failed reason => closeFor w hub generation (.streamError hub reason) s e

/-- Reads a stream for as long as it is the current one. -/
def readEvents (w : Surroundings ε ι) (hub : String) (generation : Nat) :
    List StreamEvent → HubState ι → ε → Option (HubState ι × ε)
  | [], s, e => some (s, e)
  | event :: rest, s, e =>
    if s.isCurrent generation then do
      let (s, e) ← onEvent w hub generation event s e
      readEvents w hub generation rest s e
    else some (s, e)

/-- Takes the current stream out without telling anybody. -/
def stopStream (w : Surroundings ε ι) (s : HubState ι) (e : ε) : HubState ι × ε :=
  ({ s with stream := none }, releaseStream w s.stream e)

/-- Makes a new stream the current one and handles its first message. -/
def start (w : Surroundings ε ι) (hub : String) (source : ι)
    (stop : Option BlockPosition) (first : DeliverResponse) (s : HubState ι) (e : ε) :
    Option (HubState ι × ε) :=
  let s := s.install source stop
  onMessage w hub s.generation first s e

/-- Tries event sources in order until one delivers a first message. -/
def firstStarted {τ : Type} (begin : τ → ε → Except ServiceError (ι × DeliverResponse) × ε)
    (lastError : ServiceError) :
    List τ → ε → Except ServiceError (ι × DeliverResponse) × ε
  | [], e => (.error lastError, e)
  | target :: rest, e =>
    match begin target e with
    | (.ok started, e) => (.ok started, e)
    | (.error error, e) => firstStarted begin error rest e

end HubState

/-- How a hub behaves unless told otherwise. -/
structure EventHubConfig where
  defaultBlockType : BlockType := .filtered
  /-- The limit in milliseconds for starting a stream. -/
  setupTimeout : Option Nat := none
  deriving DecidableEq, Repr, Inhabited

/-- The request for a stream of blocks, with what the hub must know about it. -/
structure SeekRequest where
  state : SignState := {}
  blockType : BlockType := .filtered
  stop : Option BlockPosition := none
  deriving DecidableEq, Repr, Inhabited

/-- The range of blocks to build a request for. -/
structure StartRequest where
  start : Option BlockPosition := none
  stop : Option BlockPosition := none
  blockType : Option BlockType := none
  deriving DecidableEq, Repr, Inhabited

/-- What a request for a stream depends on besides the range: the channel, the block type meant
unless a range says otherwise, and the last block seen. -/
structure SeekContext where
  channel : String
  blockType : BlockType := .filtered
  lastBlock : Option BlockNumber := none
  deriving DecidableEq, Repr

/-- An event hub. -/
structure EventHub (ι : Type) where
  name : String
  channel : String
  config : EventHubConfig
  request : SeekRequest := {}
  state : HubState ι := {}

namespace EventHub

variable {ι : Type}

/-- The name of the request in errors. -/
def action : String := "EventHub"

/-- A hub for a channel. -/
def new (name channel : String) (config : EventHubConfig) :
    Except EventHubError (EventHub ι) :=
  if name.isEmpty then .error (.missingParameter "name")
  else if channel.isEmpty then .error (.missingParameter "channel")
  else .ok { name, channel, config }

/-- The payload of a request for a range of blocks. -/
def assemble (signer : Signer) (now : Timestamp) (channel : String) (info : SeekInfo) :
    Except ActionError Payload :=
  match signer.transactionId with
  | .error e => .error (.crypto e)
  | .ok tx => do
    let header ← Header.forRequest signer
      (.forRequest .deliverSeekInfo now channel tx.txId [] signer.certHash) tx
    return { header, data := Wire.encode info }

end EventHub

namespace SeekRequest

/-- Lets a call act on the state of a request. -/
def onState {α : Type} (x : RequestM ActionError SignState α) :
    RequestM EventHubError SeekRequest α :=
  .onPart state (fun state q => { q with state }) (x.adaptExcept .action)

/-- Builds the request for a range of blocks; the answer is its payload. Positions behind the last
seen block are filled in now. -/
def building (signer : Signer) (now : Timestamp) (c : SeekContext) (r : StartRequest) :
    RequestM EventHubError SeekRequest Bytes := do
  let plan ← .lift (SeekPlan.make r.start r.stop c.lastBlock)
  let payload ← .lift ((EventHub.assemble signer now c.channel plan.info).mapError .action)
  let bytes := Wire.encode payload
  onState (modify fun s => s.setPayload bytes)
  modify fun q => { q with blockType := r.blockType.getD c.blockType }
  modify fun q => { q with stop := plan.stop }
  return bytes

/-- Signs the built request. -/
def signing (signer : Signer) : RequestM EventHubError SeekRequest Unit :=
  onState (SignState.signing EventHub.action signer)

/-- Attaches a signature made elsewhere. -/
def attaching (signature : Bytes) : RequestM EventHubError SeekRequest Unit :=
  onState (SignState.attaching EventHub.action signature)

end SeekRequest

namespace EventHub

variable {ε ι τ : Type}

/-- What a request of the hub depends on. -/
def seekContext (h : EventHub ι) : SeekContext where
  channel := h.channel
  blockType := h.config.defaultBlockType
  lastBlock := h.state.lastBlock

/-- Lets a call act on the request of a hub. -/
def onRequest {α : Type} (x : RequestM EventHubError SeekRequest α) :
    RequestM EventHubError (EventHub ι) α :=
  .onPart request (fun request h => { h with request }) x

/-- Builds the request for a range of blocks; the answer is its payload. -/
def building (signer : Signer) (now : Timestamp) (r : StartRequest) :
    RequestM EventHubError (EventHub ι) Bytes := do
  let h ← get
  onRequest (SeekRequest.building signer now h.seekContext r)

/-- Signs the built request. -/
def signing (signer : Signer) : RequestM EventHubError (EventHub ι) Unit :=
  onRequest (SeekRequest.signing signer)

/-- Attaches a signature made elsewhere. -/
def attaching (signature : Bytes) : RequestM EventHubError (EventHub ι) Unit :=
  onRequest (SeekRequest.attaching signature)

/-- The hub after building. -/
def build (signer : Signer) (now : Timestamp) (r : StartRequest) (h : EventHub ι) :
    Except EventHubError (EventHub ι) :=
  (building signer now r).after h

/-- The hub after signing. -/
def sign (signer : Signer) (h : EventHub ι) : Except EventHubError (EventHub ι) :=
  (signing signer).after h

/-- The hub after a signature made elsewhere was attached. -/
def signWith (signature : Bytes) (h : EventHub ι) : Except EventHubError (EventHub ι) :=
  (attaching signature).after h

/-- Registers a listener. -/
def register (l : EventListener) (h : EventHub ι) : ListenerHandle × EventHub ι :=
  let (handle, registry) := h.state.registry.insert l
  (handle, { h with state := { h.state with registry } })

/-- Removes a listener, and tells whether it was registered. -/
def unregister (handle : ListenerHandle) (h : EventHub ι) : Bool × EventHub ι :=
  let (removed, registry) := h.state.registry.remove handle
  (removed, { h with state := { h.state with registry } })

/-- The hub with its running part changed. -/
def withState (h : EventHub ι) (r : HubState ι × ε) : EventHub ι × ε :=
  ({ h with state := r.1 }, r.2)

/-- Shuts the hub down at its owner's wish. -/
def close (w : Surroundings ε ι) (h : EventHub ι) (e : ε) :
    Option (EventHub ι × ε) :=
  (h.state.closeWith w h.name (.closed h.name) e).map h.withState

/-- Reads what the current stream of the given generation brings. -/
def readEvents (w : Surroundings ε ι) (generation : Nat) (events : List StreamEvent)
    (h : EventHub ι) (e : ε) : Option (EventHub ι × ε) :=
  (HubState.readEvents w h.name generation events h.state e).map h.withState

/-- Sends the signed request: replaces the running stream by one of the first event source
that starts. If none does the hub shuts down. `begin` opens a stream on a target: the limit
is the request's own, or else the hub's. -/
def send (w : Surroundings ε ι)
    (begin : τ → BlockType → Envelope → Option Nat → ε →
      Except ServiceError (ι × DeliverResponse) × ε)
    (targets : List τ) (timeout : Option Nat) (h : EventHub ι) (e : ε) :
    Option (Except EventHubError Unit × EventHub ι × ε) :=
  if targets.isEmpty then some (.error (.missingParameter "targets"), h, e)
  else
    match h.request.state.envelope action with
    | .error error => some (.error (.action error), h, e)
    | .ok envelope => do
      let (s, e) := h.state.stopStream w e
      let limit := timeout <|> h.config.setupTimeout
      let open' (t : τ) : ε → Except ServiceError (ι × DeliverResponse) × ε :=
        begin t h.request.blockType envelope limit
      match HubState.firstStarted open' (.missingParameter "targets") targets e with
      | (.ok (source, first), e) =>
        let (h, e) := h.withState (← s.start w h.name source h.request.stop first e)
        return (.ok (), h, e)
      | (.error error, e) =>
        let (h, e) := h.withState (← s.closeWith w h.name (.setup h.name error) e)
        return (.error (.service error), h, e)

end EventHub

end LedgerClient
