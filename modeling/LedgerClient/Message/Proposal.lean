import LedgerClient.Message.Header

/-!
# Proposals and transactions

What a client asks endorsing peers to run, what they answer, and the transaction that the
answers are assembled into.
-/

namespace LedgerClient

/-- The name of a chaincode, with the version and path that only installation needs. -/
structure ChaincodeId where
  name : String := ""
  version : String := ""
  path : String := ""
  deriving DecidableEq, Repr, Inhabited

def ChaincodeId.codec : Codec ChaincodeId :=
  (Codec.text.pair <| Codec.text.pair Codec.text).iso
    (fun (name, version, path) => ⟨name, version, path⟩)
    (fun c => (c.name, c.version, c.path))

/-- The arguments of an invocation; the function name is the first of them. -/
structure ChaincodeInput where
  args : List Bytes := []
  decorations : SortedMap String Bytes := ∅
  isInit : Bool := false
  deriving DecidableEq, Repr, Inhabited

def ChaincodeInput.codec : Codec ChaincodeInput :=
  ((Codec.list Codec.bytes).pair <| (Codec.sortedMap Codec.text Codec.bytes).pair
    Codec.bool).iso
    (fun (args, decorations, isInit) => ⟨args, decorations, isInit⟩)
    (fun c => (c.args, c.decorations, c.isInit))

/-- A chaincode and its arguments. -/
structure ChaincodeSpec where
  chaincodeId : ChaincodeId := {}
  input : ChaincodeInput := {}
  deriving DecidableEq, Repr, Inhabited

def ChaincodeSpec.codec : Codec ChaincodeSpec :=
  (ChaincodeId.codec.pair ChaincodeInput.codec).iso
    (fun (chaincodeId, input) => ⟨chaincodeId, input⟩)
    (fun c => (c.chaincodeId, c.input))

/-- The invocation that a proposal asks for. -/
structure ChaincodeInvocationSpec where
  chaincodeSpec : ChaincodeSpec := {}
  deriving DecidableEq, Repr, Inhabited

def ChaincodeInvocationSpec.codec : Codec ChaincodeInvocationSpec :=
  ChaincodeSpec.codec.iso (⟨·⟩) ChaincodeInvocationSpec.chaincodeSpec

/-- The part of a channel header that names the invoked chaincode. -/
structure ChaincodeHeaderExtension where
  chaincodeId : ChaincodeId := {}
  deriving DecidableEq, Repr, Inhabited

def ChaincodeHeaderExtension.codec : Codec ChaincodeHeaderExtension :=
  ChaincodeId.codec.iso (⟨·⟩) ChaincodeHeaderExtension.chaincodeId

/-- The encoded invocation, and the private arguments that must not reach the ledger. -/
structure ChaincodeProposalPayload where
  input : Bytes := []
  transientMap : SortedMap String Bytes := ∅
  deriving DecidableEq, Repr, Inhabited

def ChaincodeProposalPayload.codec : Codec ChaincodeProposalPayload :=
  (Codec.bytes.pair (Codec.sortedMap Codec.text Codec.bytes)).iso
    (fun (input, transientMap) => ⟨input, transientMap⟩)
    (fun c => (c.input, c.transientMap))

/-- An encoded header and an encoded proposal payload. -/
structure ChaincodeProposal where
  header : Bytes := []
  payload : Bytes := []
  extension : Bytes := []
  deriving DecidableEq, Repr, Inhabited

def ChaincodeProposal.codec : Codec ChaincodeProposal :=
  (Codec.bytes.pair <| Codec.bytes.pair Codec.bytes).iso
    (fun (header, payload, extension) => ⟨header, payload, extension⟩)
    (fun c => (c.header, c.payload, c.extension))

/-- An encoded proposal and the signature over it. -/
structure SignedProposal where
  proposalBytes : Bytes := []
  signature : Bytes := []
  deriving DecidableEq, Repr, Inhabited

def SignedProposal.codec : Codec SignedProposal :=
  (Codec.bytes.pair Codec.bytes).iso
    (fun (proposalBytes, signature) => ⟨proposalBytes, signature⟩)
    (fun s => (s.proposalBytes, s.signature))

/-- What a chaincode returned. -/
structure Response where
  status : Int32 := 0
  message : String := ""
  payload : Bytes := []
  deriving DecidableEq, Repr, Inhabited

def Response.codec : Codec Response :=
  (Codec.i32.pair <| Codec.text.pair Codec.bytes).iso
    (fun (status, message, payload) => ⟨status, message, payload⟩)
    (fun r => (r.status, r.message, r.payload))

/-- A peer's identity and its signature over a proposal's outcome. -/
structure Endorsement where
  endorser : Bytes := []
  signature : Bytes := []
  deriving DecidableEq, Repr, Inhabited

def Endorsement.codec : Codec Endorsement :=
  (Codec.bytes.pair Codec.bytes).iso
    (fun (endorser, signature) => ⟨endorser, signature⟩)
    (fun e => (e.endorser, e.signature))

/-- A peer's answer to a proposal; only a successful one carries an endorsement. -/
structure ProposalResponse where
  version : Int32 := 0
  response : Response := {}
  payload : Bytes := []
  endorsement : Option Endorsement := none
  deriving DecidableEq, Repr, Inhabited

def ProposalResponse.codec : Codec ProposalResponse :=
  (Codec.i32.pair <| Response.codec.pair <| Codec.bytes.pair (Codec.option
    Endorsement.codec)).iso
    (fun (version, response, payload, endorsement) => ⟨version, response, payload, endorsement⟩)
    (fun p => (p.version, p.response, p.payload, p.endorsement))

/-- What the endorsing peers sign: the hash of the proposal and the encoded outcome. -/
structure ProposalResponsePayload where
  proposalHash : Bytes := []
  extension : Bytes := []
  deriving DecidableEq, Repr, Inhabited

def ProposalResponsePayload.codec : Codec ProposalResponsePayload :=
  (Codec.bytes.pair Codec.bytes).iso
    (fun (proposalHash, extension) => ⟨proposalHash, extension⟩)
    (fun p => (p.proposalHash, p.extension))

/-- The outcome of running a proposal. -/
structure ChaincodeAction where
  results : Bytes := []
  events : Bytes := []
  response : Response := {}
  chaincodeId : Option ChaincodeId := none
  deriving DecidableEq, Repr, Inhabited

def ChaincodeAction.codec : Codec ChaincodeAction :=
  (Codec.bytes.pair <| Codec.bytes.pair <| Response.codec.pair (Codec.option
    ChaincodeId.codec)).iso
    (fun (results, events, response, chaincodeId) => ⟨results, events, response, chaincodeId⟩)
    (fun c => (c.results, c.events, c.response, c.chaincodeId))

/-- An outcome and the endorsements of it. -/
structure ChaincodeEndorsedAction where
  proposalResponsePayload : Bytes := []
  endorsements : List Endorsement := []
  deriving DecidableEq, Repr, Inhabited

def ChaincodeEndorsedAction.codec : Codec ChaincodeEndorsedAction :=
  (Codec.bytes.pair (Codec.list Endorsement.codec)).iso
    (fun (proposalResponsePayload, endorsements) => ⟨proposalResponsePayload, endorsements⟩)
    (fun c => (c.proposalResponsePayload, c.endorsements))

/-- The proposal that was run and its endorsed outcome. -/
structure ChaincodeActionPayload where
  chaincodeProposalPayload : Bytes := []
  action : ChaincodeEndorsedAction := {}
  deriving DecidableEq, Repr, Inhabited

def ChaincodeActionPayload.codec : Codec ChaincodeActionPayload :=
  (Codec.bytes.pair ChaincodeEndorsedAction.codec).iso
    (fun (chaincodeProposalPayload, action) => ⟨chaincodeProposalPayload, action⟩)
    (fun c => (c.chaincodeProposalPayload, c.action))

/-- One action of a transaction. -/
structure TransactionAction where
  header : Bytes := []
  payload : Bytes := []
  deriving DecidableEq, Repr, Inhabited

def TransactionAction.codec : Codec TransactionAction :=
  (Codec.bytes.pair Codec.bytes).iso
    (fun (header, payload) => ⟨header, payload⟩)
    (fun t => (t.header, t.payload))

/-- A transaction: the data of an endorser transaction payload. -/
structure Transaction where
  actions : List TransactionAction := []
  deriving DecidableEq, Repr, Inhabited

def Transaction.codec : Codec Transaction :=
  (Codec.list TransactionAction.codec).iso (⟨·⟩) Transaction.actions

end LedgerClient
