import LedgerClient.Request.Proposal

/-!
# Commits

The transaction made of an endorsed proposal. It carries the outcome of the first endorsed
response with the endorsements of all of them, under the proposal's own header, and the
invocation without its transient map.
-/

namespace LedgerClient

/-- A transaction in the making: the proposal and the responses to it. -/
structure Commit where
  chaincodeId : String
  channelName : String
  proposal : ChaincodeProposal
  responses : List ProposalResponse
  state : SignState := {}
  deriving DecidableEq, Repr

namespace Commit

/-- The name of the request in errors. -/
def action : String := "Commit"

/-- The commit for a built proposal and the responses recorded for it. -/
def ofProposal (p : Proposal) : Except ActionError Commit :=
  match p.built with
  | none => .error (.notBuilt Proposal.action)
  | some proposal =>
    .ok
      { chaincodeId := p.chaincodeId
        channelName := p.channelName
        proposal
        responses := ((p.results.map ProposalResults.responses).getD []).map
          PeerResponse.response }

/-- A step of another layer as a step of a request. -/
def liftWire {α : Type} (r : Except DecodeError α) : Except ActionError α :=
  r.mapError .wire

/-- The payload of the transaction. -/
def assemble (signer : Signer) (proposal : ChaincodeProposal)
    (responses : List ProposalResponse) : Except ActionError Payload := do
  let endorsed := responses.filter fun r => r.endorsement.isSome
  match endorsed.head? with
  | none => .error .noEndorsements
  | some first => do
    let header : Header ← liftWire (Wire.decode proposal.header)
    let signatureHeader : SignatureHeader ← liftWire (Wire.decode header.signatureHeader)
    let creator ← signer.serialize.mapError .crypto
    if signatureHeader.creator ≠ creator then
      .error (.crypto (.invalidIdentity "commit identity differs from the proposal creator"))
    let invocation : ChaincodeProposalPayload ← liftWire (Wire.decode proposal.payload)
    let actionPayload : ChaincodeActionPayload :=
      { chaincodeProposalPayload := Wire.encode { invocation with transientMap := ∅ }
        action :=
          { proposalResponsePayload := first.payload
            endorsements := endorsed.filterMap ProposalResponse.endorsement } }
    let transaction : Transaction :=
      { actions := [
          { header := header.signatureHeader, payload := Wire.encode actionPayload }] }
    return { header, data := Wire.encode transaction }

/-- Lets a call act on the state of a commit. -/
def onState {α : Type} (x : RequestM ActionError SignState α) : RequestM ActionError Commit α :=
  .onPart state (fun state c => { c with state }) x

/-- Builds the transaction; the answer is its payload. -/
def building (signer : Signer) : RequestM ActionError Commit Bytes := do
  let c ← get
  let payload ← .lift (assemble signer c.proposal c.responses)
  let bytes := Wire.encode payload
  onState (modify fun s => s.setPayload bytes)
  return bytes

/-- Signs the built transaction. -/
def signing (signer : Signer) : RequestM ActionError Commit Unit :=
  onState (SignState.signing action signer)

/-- Attaches a signature made elsewhere. -/
def attaching (signature : Bytes) : RequestM ActionError Commit Unit :=
  onState (SignState.attaching action signature)

/-- The commit after building. -/
def build (signer : Signer) (c : Commit) : Except ActionError Commit :=
  (building signer).after c

/-- The commit after signing. -/
def sign (signer : Signer) (c : Commit) : Except ActionError Commit :=
  (signing signer).after c

/-- The commit after a signature made elsewhere was attached. -/
def signWith (signature : Bytes) (c : Commit) : Except ActionError Commit :=
  (attaching signature).after c

/-- Lets a handler send the signed transaction; what it brings is given by a function on a
state `σ` of the outside world. -/
def sendThrough {σ : Type}
    (handler : Envelope → σ → Except ActionError BroadcastResponse × σ) (c : Commit) (s : σ) :
    Except ActionError BroadcastResponse × σ :=
  match c.state.envelope action with
  | .error e => (.error e, s)
  | .ok envelope => handler envelope s

end Commit

/-! ### Broadcasting -/

section Broadcast

variable {σ ο : Type}

/-- Sends to one orderer after another until one accepts; the last failure counts if none
does. `send` is the outside world: what an orderer answers, its connection details, and the
world afterwards. -/
def broadcastFirstSuccess
    (send : ο → σ → (Except ServiceError BroadcastResponse × ConnectionInfo) × σ)
    (lastError : ActionError) : List ο → σ → Except ActionError BroadcastResponse × σ
  | [], s => (.error lastError, s)
  | orderer :: rest, s =>
    match send orderer s with
    | ((.error e, _), s) => broadcastFirstSuccess send (.service e) rest s
    | ((.ok response, connection), s) =>
      if response.status.isSuccess then (.ok response, s)
      else
        let error := ServiceError.remote connection response.status.label response.info
        broadcastFirstSuccess send (.service error) rest s

/-- Broadcasts to a list of orderers, which must not be empty. -/
def broadcast (send : ο → σ → (Except ServiceError BroadcastResponse × ConnectionInfo) × σ)
    (orderers : List ο) (s : σ) : Except ActionError BroadcastResponse × σ :=
  broadcastFirstSuccess send (.missingParameter "targets") orderers s

end Broadcast

end LedgerClient
