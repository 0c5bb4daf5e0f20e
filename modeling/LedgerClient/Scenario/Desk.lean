import LedgerClient.Client.Session
import LedgerClient.Document.Fault
import LedgerClient.Document.Person

/-!
# The desk of a scenario

A scenario tells, step by step, what a client does and what happens around it. Its steps
are documents, and so are their answers. The desk holds the session that the steps are
about and knows what the names in them stand for.

A step that cannot be understood changes nothing on the desk.
-/

namespace LedgerClient

/-- A node of any kind. -/
structure AnyNode where
  {kind : NodeKind}
  id : NodeId kind

/-- Something that is built and signed. -/
inductive RequestId where
  | proposal (id : ProposalId)
  | commit (id : CommitId)
  | hub (id : HubId)
  | discovery (id : DiscoveryId)

/-- A session, and what the names in the steps stand for. -/
structure Desk where
  session : Session := {}
  people : SortedMap String Person := ∅
  nodes : SortedMap String AnyNode := ∅
  requests : SortedMap String RequestId := ∅
  feeds : SortedMap String FeedId := ∅
  /-- The discovery results that were seen last: whose they are, and their serial number. -/
  seen : Option (DiscoveryId × Nat) := none

/-- Work at the desk; without a result if what is to be done cannot be understood. -/
abbrev Work := StateT Desk Option

/-- A step of a scenario: the work that a document asks for, and its answer. -/
abbrev Step := Document → Work Document

namespace Work

/-- What cannot be understood. -/
def unclear {α : Type} : Work α := failure

/-- Goes on with a value, or answers with the fault in its place. -/
def orFault {ε α : Type} [Faulty ε] (r : Except ε α) (next : α → Work Document) : Work Document :=
  match r with
  | .ok a => next a
  | .error e => return shownFault e

/-- The answer that holds a value. -/
def answer {α : Type} [Shown α] (a : α) : Work Document :=
  return .ok (shown a)

/-- The answer that holds an object. -/
def report (fields : List (String × Document)) : Work Document :=
  return .ok (.object fields)

/-! ### The session -/

/-- The session. -/
def session : Work Session := return (← get).session

/-- Replaces the session. -/
def setSession (session : Session) : Work Unit :=
  modify fun d => { d with session }

/-- Lets the session act. -/
def onSession {α : Type} (act : Session → α × Session) : Work α := do
  let (a, s) := act (← session)
  setSession s
  return a

/-- Lets the session act, if it can. -/
def onSession? {α : Type} (act : Session → Option (α × Session)) : Work α := do
  let (a, s) ← act (← session)
  setSession s
  return a

/-- The outside world. -/
def world : Work World := return (← session).world

/-- Replaces the outside world. -/
def setWorld (w : World) : Work Unit := do
  setSession ((← session).setWorld w)

/-- Lets the world act. -/
def onWorld {α : Type} (act : World → α × World) : Work α :=
  onSession fun s => s.onWorld act

/-- The services in memory. -/
def network : Work Network := return (← world).network

/-- Replaces the services in memory. -/
def setNetwork (network : Network) : Work Unit := do
  setWorld { ← world with network }

/-! ### Names -/

/-- The text in a field. -/
def text (d : Document) (key : String) : Work String :=
  d.get? key

/-- The node that a name stands for. -/
def node (name : String) : Work AnyNode := do
  (← get).nodes.get? name

/-- The request that a name stands for. -/
def request (name : String) : Work RequestId := do
  (← get).requests.get? name

/-- The stream that a name stands for. -/
def feed (name : String) : Work FeedId := do
  (← get).feeds.get? name

/-- The person that a name stands for. -/
def person (name : String) : Work Person := do
  (← get).people.get? name

/-- Lets a name stand for a node. -/
def nameNode (name : String) (n : AnyNode) : Work Unit :=
  modify fun d => { d with nodes := d.nodes.insert name n }

/-- Lets a name stand for a request. -/
def nameRequest (name : String) (r : RequestId) : Work Unit :=
  modify fun d => { d with requests := d.requests.insert name r }

/-- Lets a name stand for a stream. -/
def nameFeed (name : String) (f : FeedId) : Work Unit :=
  modify fun d => { d with feeds := d.feeds.insert name f }

/-! ### Signatures -/

/-- A signature is shown by the name of the first person who has made it, or else in full. -/
def signatureDocument (payload signature : Bytes) : Work Document := do
  let made (p : Person) : Bool := (p.identity.key.publicKey.verify payload signature).isOk
  match (← get).people.entries.find? fun e => made e.2 with
  | some (name, _) => return shown s!"signed:{name}"
  | none => return shown signature

end Work

end LedgerClient
