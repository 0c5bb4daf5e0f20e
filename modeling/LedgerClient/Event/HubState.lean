import LedgerClient.Event.Dispatch
import LedgerClient.Event.Seek

/-!
# The state of a running hub

The part of an event hub that changes while it runs, and the sections of its operations
that are atomic. Listeners are never told anything inside such a section: notices go into a
queue, which is emptied afterwards by whoever comes first. While somebody empties it, others
only add to it, so notices reach the listeners one at a time and in order.

A stream is known by its generation. Whatever arrives on a stream that is no longer the
current one changes nothing.
-/

namespace LedgerClient

/-- The stream a hub listens to: its generation, and where it comes from. -/
structure ActiveStream (ι : Type) where
  generation : Nat
  source : ι
  deriving DecidableEq, Repr

/-- The changing part of a hub; `ι` names event sources. -/
structure HubState (ι : Type) where
  registry : Registry := {}
  lastBlock : Option BlockNumber := none
  /-- The end of the current stream that the hub watches for. -/
  stop : Option BlockPosition := none
  stopSeen : Bool := false
  stream : Option (ActiveStream ι) := none
  /-- The generation of the latest stream. It is unbounded, where a counter of one word would run
  out after 2^64 streams. -/
  generation : Nat := 0
  /-- Whether a shutdown is under way. -/
  closing : Bool := false
  /-- Notices that have not been handed over yet. -/
  queue : List Delivery := []
  /-- Whether somebody is handing over notices. -/
  draining : Bool := false

namespace HubState

variable {ι : Type}

/-- Whether a generation is that of the current stream. -/
def isCurrent (s : HubState ι) (generation : Nat) : Bool :=
  s.stream.any fun a => a.generation == generation

/-- Queues notices. -/
def enqueue (s : HubState ι) (deliveries : List Delivery) : HubState ι :=
  { s with queue := s.queue ++ deliveries }

/-- Whether a block reaches the numbered end of the stream. -/
def reaches (s : HubState ι) (number : BlockNumber) : Bool :=
  match s.stop with
  | some (.number n) => n ≤ number
  | _ => false

/-- Takes in a block of the current stream: remembers its number, queues what listeners are
told about it, and tells whether it reaches the end of the stream. -/
def receive (hub : String) (block : DeliveredBlock) (s : HubState ι) : Bool × HubState ι :=
  let (registry, deliveries) := dispatch hub s.registry block
  let reached := s.reaches block.number
  (reached,
    { s with
      registry
      lastBlock := some block.number
      stopSeen := s.stopSeen || reached }.enqueue deliveries)

/-- What a status message of the current stream means for the hub. -/
def statusTermination (hub : String) (status : Status) (s : HubState ι) : Termination :=
  let newest := s.stop == some .newest
  if status.isSuccess && (s.stopSeen || newest) then
    if newest && !s.stopSeen then .newestBlock hub else .delivered hub status
  else .unexpectedStatus hub status

/-- Starts a shutdown, unless one is under way: takes the stream and all listeners out, and
queues the notice for each of them. The notice shows the last block, and the stream's
source if it names no other connection. -/
def beginClose (connectionInfo : ι → ConnectionInfo) (t : Termination) (s : HubState ι) :
    Option (HubState ι × Option (ActiveStream ι)) :=
  if s.closing then none
  else
    let connection := t.connection <|> s.stream.map fun a => connectionInfo a.source
    let t := { t with connection, lastBlockNumber := s.lastBlock }
    let (handles, registry) := s.registry.drain
    some
      ({ s with closing := true, stream := none, registry }.enqueue
        (handles.map (⟨·, .terminated t⟩)), s.stream)

/-- Ends a shutdown. -/
def endClose (s : HubState ι) : HubState ι :=
  { s with closing := false }

/-- Takes on the handing over of notices, unless somebody else is at it. -/
def beginDrain (s : HubState ι) : Option (HubState ι) :=
  if s.draining then none else some { s with draining := true }

/-- Takes the next notice out of the queue. When there is none, the handing over ends. -/
def nextNotice (s : HubState ι) : Option Delivery × HubState ι :=
  match s.queue with
  | [] => (none, { s with draining := false })
  | d :: rest => (some d, { s with queue := rest })

/-- Makes a new stream the current one, under a fresh generation. -/
def install (source : ι) (stop : Option BlockPosition) (s : HubState ι) : HubState ι :=
  { s with
    generation := s.generation + 1
    stop
    stopSeen := false
    stream := some ⟨s.generation + 1, source⟩ }

end HubState

end LedgerClient
