import LedgerClient.Proofs.Request.Calls

/-!
# What building gives

A proposal is built if the signer has a serialized form and a transaction id. A transaction is
built if some response is endorsed, the proposal's own layers are read, and the signer is the
creator that the proposal names. The statements here say what is built then.

## Main results

* `Proposal.build_eq_ok_iff`: when a proposal is built, and what it holds.
* `Commit.assemble_eq_ok_iff`: when a transaction is built, and what it carries.
* `Commit.payload_of_record`: what the transaction for recorded results carries.
-/

namespace LedgerClient

/-! ### Proposals -/

/-- The header of a request is made if the signer has a serialized form. -/
theorem Header.forRequest_eq_ok_iff {signer : Signer} {channelHeader : ChannelHeader}
    {tx : TransactionId} {header : Header} :
    Header.forRequest signer channelHeader tx = .ok header ↔
      ∃ creator, signer.serialize = .ok creator ∧
        header =
          { channelHeader := Wire.encode channelHeader
            signatureHeader :=
              Wire.encode ({ creator, nonce := tx.nonce } : SignatureHeader) } := by
  rw [Header.forRequest]
  cases signer.serialize with
  | error e =>
      constructor
      · intro h
        cases h
      · rintro ⟨creator, h, -⟩
        cases h
  | ok creator =>
      constructor
      · intro h
        cases h
        exact ⟨creator, rfl, rfl⟩
      · rintro ⟨creator', h, rfl⟩
        cases h
        rfl

namespace Proposal

/-- The channel header of a proposal. -/
def channelHeaderOf (signer : Signer) (now : Timestamp) (tx : TransactionId)
    (chaincodeId channelName : String) : ChannelHeader :=
  let extension : ChaincodeHeaderExtension := { chaincodeId := { name := chaincodeId } }
  .forRequest .endorserTransaction now channelName tx.txId (Wire.encode extension) signer.certHash

/-- The header of a proposal: its channel header and its creator. -/
def headerOf (signer : Signer) (now : Timestamp) (tx : TransactionId) (creator : Bytes)
    (p : Proposal) : Header :=
  { channelHeader := Wire.encode (channelHeaderOf signer now tx p.chaincodeId p.channelName)
    signatureHeader := Wire.encode ({ creator, nonce := tx.nonce } : SignatureHeader) }

/-- The invocation that a proposal asks for, with its private arguments. -/
def payloadOf (i : Invocation) (p : Proposal) : ChaincodeProposalPayload :=
  { input := Wire.encode (invocationSpec p.chaincodeId i), transientMap := i.transientMap }

/-- The message of a proposal. -/
def messageOf (signer : Signer) (now : Timestamp) (tx : TransactionId) (creator : Bytes)
    (i : Invocation) (p : Proposal) : ChaincodeProposal :=
  { header := Wire.encode (p.headerOf signer now tx creator)
    payload := Wire.encode (p.payloadOf i) }

/-- A proposal is built if the signer has a serialized form and a transaction id. -/
theorem build_eq_ok_iff {signer : Signer} {now : Timestamp} {i : Invocation} {p p' : Proposal} :
    p.build signer now i = .ok p' ↔
      ∃ creator tx, signer.serialize = .ok creator ∧ signer.transactionId = .ok tx ∧
        p' = { p with
          state := p.state.setPayload
            (Wire.encode (p.messageOf signer now tx creator i))
          tx := some tx
          built := some (p.messageOf signer now tx creator i)
          results := none } := by
  simp only [build, RequestM.after_eq_ok_iff, perform_building_eq_ok_iff, assemble, bind_eq_ok_iff,
    Header.forRequest_eq_ok_iff]
  constructor
  · rintro ⟨_, tx, message, htx, ⟨_, ⟨creator, hcreator, rfl⟩, h⟩, rfl, rfl⟩
    cases h
    exact ⟨creator, tx, hcreator, htx, rfl⟩
  · rintro ⟨creator, tx, hcreator, htx, rfl⟩
    exact ⟨_, tx, _, htx, ⟨_, ⟨creator, hcreator, rfl⟩, rfl⟩, rfl, rfl⟩

end Proposal

/-! ### Transactions -/

/-- What peers responded, in order. -/
def ProposalResults.given (results : ProposalResults) : List ProposalResponse :=
  results.responses.map PeerResponse.response

/-- The payload of a transaction with a single action. -/
def Payload.ofAction (header : Header) (action : ChaincodeActionPayload) : Payload :=
  let transaction : Transaction :=
    { actions := [{ header := header.signatureHeader, payload := Wire.encode action }] }
  { header, data := Wire.encode transaction }

/-- The endorsements among some responses, in order. -/
def ProposalResponse.endorsements (responses : List ProposalResponse) : List Endorsement :=
  responses.filterMap ProposalResponse.endorsement

/-- The first response that holds an endorsement. -/
def ProposalResponse.firstEndorsed? (responses : List ProposalResponse) :
    Option ProposalResponse :=
  responses.find? fun r => r.endorsement.isSome

namespace Commit

/-- The action of a transaction: the invocation without its transient map, the outcome of one
response, and endorsements. -/
def actionOf (invocation : ChaincodeProposalPayload) (outcome : Bytes)
    (endorsements : List Endorsement) : ChaincodeActionPayload :=
  { chaincodeProposalPayload := Wire.encode { invocation with transientMap := ∅ }
    action := { proposalResponsePayload := outcome, endorsements } }

theorem filterMap_endorsed (responses : List ProposalResponse) :
    (responses.filter fun r => r.endorsement.isSome).filterMap ProposalResponse.endorsement =
      ProposalResponse.endorsements responses := by
  rw [ProposalResponse.endorsements, List.filterMap_filter]
  congr 1
  funext r
  cases r.endorsement <;> rfl

/-- A transaction is built if a response is endorsed, the layers of the proposal are read, and
the signer is its creator. It carries the outcome of the first endorsed response and the
endorsements of all. -/
theorem assemble_eq_ok_iff {signer : Signer} {proposal : ChaincodeProposal}
    {responses : List ProposalResponse} {payload : Payload} :
    assemble signer proposal responses = .ok payload ↔
      ∃ (first : ProposalResponse) (header : Header) (signatureHeader : SignatureHeader)
        (invocation : ChaincodeProposalPayload),
        ProposalResponse.firstEndorsed? responses = some first ∧
        Wire.decode proposal.header = .ok header ∧
        Wire.decode header.signatureHeader = .ok signatureHeader ∧
        signer.serialize = .ok signatureHeader.creator ∧
        Wire.decode proposal.payload = .ok invocation ∧
        payload = .ofAction header
          (actionOf invocation first.payload (ProposalResponse.endorsements responses)) := by
  rw [assemble]
  simp only [List.head?_filter, filterMap_endorsed, ProposalResponse.firstEndorsed?]
  cases responses.find? fun r => r.endorsement.isSome with
  | none =>
      constructor
      · intro h
        cases h
      · rintro ⟨first, _, _, _, h, -⟩
        cases h
  | some first =>
      simp only [liftWire, bind_eq_ok_iff, mapError_eq_ok_iff]
      constructor
      · rintro ⟨header, hheader, signatureHeader, hsignature, creator, hcreator, h⟩
        split at h
        · cases h
        · next hsame =>
          obtain ⟨invocation, hinvocation, h⟩ := bind_eq_ok_iff.1 h
          cases h
          rw [Decidable.not_not] at hsame
          exact ⟨first, header, signatureHeader, invocation, rfl, hheader, hsignature,
            hsame ▸ hcreator, mapError_eq_ok_iff.1 hinvocation, rfl⟩
      · rintro ⟨first', header, signatureHeader, invocation, hfirst, hheader, hsignature, hcreator,
          hinvocation, rfl⟩
        cases hfirst
        refine ⟨header, hheader, signatureHeader, hsignature, _, hcreator, ?_⟩
        rw [if_neg (not_not_intro rfl), bind_eq_ok_iff]
        exact ⟨invocation, mapError_eq_ok_iff.2 hinvocation, rfl⟩

/-- A commit is built if its transaction is. -/
theorem build_eq_ok_iff {signer : Signer} {c c' : Commit} :
    c.build signer = .ok c' ↔ ∃ payload, assemble signer c.proposal c.responses = .ok payload ∧
      c' = { c with state := c.state.setPayload (Wire.encode payload) } := by
  simp only [build, RequestM.after_eq_ok_iff, perform_building_eq_ok_iff]
  constructor
  · rintro ⟨_, payload, hpayload, rfl, rfl⟩
    exact ⟨payload, hpayload, rfl⟩
  · rintro ⟨payload, hpayload, rfl⟩
    exact ⟨_, payload, hpayload, rfl, rfl⟩

/-- A commit is made of a built proposal and the responses recorded for it. -/
theorem ofProposal_record_eq_ok_iff {p : Proposal} {results : ProposalResults} {c : Commit} :
    ofProposal (p.record results) = .ok c ↔ ∃ proposal, p.built = some proposal ∧
      c = { chaincodeId := p.chaincodeId, channelName := p.channelName, proposal
            responses := results.given } := by
  rw [ofProposal, Proposal.record]
  cases p.built with
  | none =>
      constructor
      · intro h
        cases h
      · rintro ⟨proposal, h, -⟩
        cases h
  | some proposal =>
      constructor
      · intro h
        cases h
        exact ⟨proposal, rfl, rfl⟩
      · rintro ⟨proposal', h, rfl⟩
        cases h
        rfl

/-- The transaction that is built for recorded results. -/
theorem payload_of_record {p : Proposal} {results : ProposalResults} {c c' : Commit}
    {signer : Signer} (hcommit : ofProposal (p.record results) = .ok c)
    (hbuild : c.build signer = .ok c') :
    ∃ header invocation first, ProposalResponse.firstEndorsed? results.given = some first ∧
      c'.state.payload = some (Wire.encode (Payload.ofAction header (actionOf invocation
        first.payload (ProposalResponse.endorsements results.given)))) := by
  obtain ⟨proposal, -, rfl⟩ := ofProposal_record_eq_ok_iff.mp hcommit
  obtain ⟨payload, hassemble, rfl⟩ := build_eq_ok_iff.mp hbuild
  obtain ⟨first, header, -, invocation, hfirst, -, -, -, -, rfl⟩ := assemble_eq_ok_iff.mp hassemble
  exact ⟨header, invocation, first, hfirst, rfl⟩

end Commit

/-! ### A signer -/

/-- Somebody who signs. -/
def Signer.sample : Signer :=
  { mspid := "Org1", serialize := .ok [7], sign := fun _ => .ok [9], certHash := none
    transactionId := .ok ⟨[1], "tx"⟩ }

end LedgerClient
