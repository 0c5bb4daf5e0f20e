import LedgerClient.Request.Frame
import LedgerClient.Request.Outcome
import LedgerClient.Request.SignState

/-!
# Proposals

A request to run a chaincode function, to be endorsed by peers or only queried. Building
derives a transaction id and frames the invocation; it drops the results of an earlier
build, so recorded results always belong to the proposal beside them. A send that fails
records nothing.
-/

namespace LedgerClient

/-- What a proposal is for. -/
inductive ProposalKind where
  | endorsement
  | query
  deriving DecidableEq, Repr

/-- The invocation to build a proposal for. -/
structure Invocation where
  function : String := "invoke"
  args : List Bytes := []
  /-- Private arguments, which peers see but the ledger does not. -/
  transientMap : SortedMap String Bytes := ∅
  init : Bool := false
  deriving DecidableEq, Repr, Inhabited

/-- A proposal in the making. -/
structure Proposal where
  kind : ProposalKind
  chaincodeId : String
  channelName : String
  state : SignState := {}
  tx : Option TransactionId := none
  built : Option ChaincodeProposal := none
  collectionsInterest : List String := []
  noPrivateReads : Bool := false
  chaincodesInterest : List ChaincodeCall := []
  results : Option ProposalResults := none
  deriving DecidableEq, Repr

namespace Proposal

/-- The name of the request in errors. -/
def action : String := "Proposal"

/-- A new proposal to a chaincode of a channel. -/
def new (kind : ProposalKind) (chaincodeId channelName : String) : Except ActionError Proposal :=
  if chaincodeId.isEmpty then .error (.missingParameter "chaincodeId")
  else if channelName.isEmpty then .error (.missingParameter "channel")
  else .ok { kind, chaincodeId, channelName }

/-- The invocation as peers run it: the function's name is the first argument. -/
def invocationSpec (chaincodeId : String) (i : Invocation) : ChaincodeInvocationSpec :=
  { chaincodeSpec :=
      { chaincodeId := { name := chaincodeId }
        input := { args := Utf8.encode i.function :: i.args, isInit := i.init } } }

/-- The proposal message for a transaction id and an invocation. -/
def assemble (signer : Signer) (now : Timestamp) (tx : TransactionId)
    (chaincodeId channelName : String) (i : Invocation) : Except ActionError ChaincodeProposal := do
  let extension : ChaincodeHeaderExtension := { chaincodeId := { name := chaincodeId } }
  let header ← Header.forRequest signer
    (.forRequest .endorserTransaction now channelName tx.txId (Wire.encode extension)
      signer.certHash) tx
  let payload : ChaincodeProposalPayload :=
    { input := Wire.encode (invocationSpec chaincodeId i), transientMap := i.transientMap }
  return { header := Wire.encode header, payload := Wire.encode payload }

/-- Lets a call act on the state of a proposal. -/
def onState {α : Type} (x : RequestM ActionError SignState α) : RequestM ActionError Proposal α :=
  .onPart state (fun state p => { p with state }) x

/-- Builds the proposal for an invocation; the answer is its payload. -/
def building (signer : Signer) (now : Timestamp) (i : Invocation) :
    RequestM ActionError Proposal Bytes := do
  let tx ← .lift (signer.transactionId.mapError .crypto)
  let p ← get
  let message ← .lift (assemble signer now tx p.chaincodeId p.channelName i)
  let bytes := Wire.encode message
  onState (modify fun s => s.setPayload bytes)
  modify fun p => { p with built := some message }
  modify fun p => { p with tx := some tx }
  modify fun p => { p with results := none }
  return bytes

/-- Signs the built proposal. -/
def signing (signer : Signer) : RequestM ActionError Proposal Unit :=
  onState (SignState.signing action signer)

/-- Attaches a signature made elsewhere. -/
def attaching (signature : Bytes) : RequestM ActionError Proposal Unit :=
  onState (SignState.attaching action signature)

/-- The proposal after building. -/
def build (signer : Signer) (now : Timestamp) (i : Invocation) (p : Proposal) :
    Except ActionError Proposal :=
  (building signer now i).after p

/-- The proposal after signing. -/
def sign (signer : Signer) (p : Proposal) : Except ActionError Proposal :=
  (signing signer).after p

/-- The proposal after a signature made elsewhere was attached. -/
def signWith (signature : Bytes) (p : Proposal) : Except ActionError Proposal :=
  (attaching signature).after p

/-- The proposal as peers receive it. -/
def signed (p : Proposal) : Except ActionError SignedProposal := do
  let e ← p.state.envelope action
  return { proposalBytes := e.payload, signature := e.signature }

/-- The chaincodes and collections the proposal touches, its own chaincode first. -/
def interest (p : Proposal) : ChaincodeInterest :=
  { chaincodes :=
      { name := p.chaincodeId
        collectionNames := p.collectionsInterest
        noPrivateReads := p.noPrivateReads } :: p.chaincodesInterest }

/-- Keeps results of the proposal as it was last built. -/
def record (results : ProposalResults) (p : Proposal) : Proposal :=
  { p with results := some results }

/-! ### Sending

What sending brings is given by a function on a state `σ` of the outside world. Sending has no
result if it would go on for ever. -/

section Send

variable {σ τ : Type}

/-- Lets a handler send the signed proposal, and records the results it comes back with. -/
def sendThrough (handler : SignedProposal → σ → Option (Except ActionError ProposalResults × σ))
    (p : Proposal) (s : σ) : Option (Except ActionError ProposalResults × Proposal × σ) :=
  match p.signed with
  | .error e => some (.error e, p, s)
  | .ok signed => do
    match ← handler signed s with
    | (.ok results, s) => return (.ok results, p.record results, s)
    | (.error e, s) => return (.error e, p, s)

/-- Sends the signed proposal to some targets at once, and records the results. -/
def sendTo (ask : SignedProposal → List τ → σ → List PeerOutcome × σ) (targets : List τ)
    (p : Proposal) (s : σ) : Option (Except ActionError ProposalResults × Proposal × σ) :=
  if targets.isEmpty then some (.error (.missingParameter "targets"), p, s)
  else
    p.sendThrough (fun signed s =>
      let (outcomes, s) := ask signed targets s
      some (.ok (.ofOutcomes outcomes), s)) s

end Send

end Proposal

end LedgerClient
