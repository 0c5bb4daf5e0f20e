import LedgerClient.Document.Header
import LedgerClient.Message.Proposal

/-!
# Documents of proposals

Proposals, the answers of endorsing peers, and the transactions made of them.
-/

namespace LedgerClient

instance : Form ChaincodeId := .record <|
  ChaincodeId.mk <$> field "name" (·.name) <*> field "version" (·.version)
    <*> field "path" (·.path)

instance : Form ChaincodeInput := .record <|
  ChaincodeInput.mk <$> field "args" (·.args) <*> field "decorations" (·.decorations)
    <*> field "is_init" (·.isInit)

instance : Form ChaincodeSpec := .record <|
  ChaincodeSpec.mk <$> field "chaincode_id" (·.chaincodeId) <*> field "input" (·.input)

instance : Form ChaincodeInvocationSpec := .record <|
  ChaincodeInvocationSpec.mk <$> field "chaincode_spec" (·.chaincodeSpec)

instance : Form ChaincodeHeaderExtension := .record <|
  ChaincodeHeaderExtension.mk <$> field "chaincode_id" (·.chaincodeId)

instance : Form ChaincodeProposalPayload := .record <|
  ChaincodeProposalPayload.mk <$> field "input" (·.input)
    <*> field "transient_map" (·.transientMap)

instance : Form ChaincodeProposal := .record <|
  ChaincodeProposal.mk <$> field "header" (·.header) <*> field "payload" (·.payload)
    <*> field "extension" (·.extension)

instance : Form SignedProposal := .record <|
  SignedProposal.mk <$> field "proposal_bytes" (·.proposalBytes)
    <*> field "signature" (·.signature)

instance : Form Response := .record <|
  Response.mk <$> field "status" (·.status) <*> field "message" (·.message)
    <*> field "payload" (·.payload)

instance : Form Endorsement := .record <|
  Endorsement.mk <$> field "endorser" (·.endorser) <*> field "signature" (·.signature)

instance : Form ProposalResponse := .record <|
  ProposalResponse.mk <$> field "version" (·.version) <*> field "response" (·.response)
    <*> field "payload" (·.payload) <*> field "endorsement" (·.endorsement)

instance : Form ProposalResponsePayload := .record <|
  ProposalResponsePayload.mk <$> field "proposal_hash" (·.proposalHash)
    <*> field "extension" (·.extension)

instance : Form ChaincodeAction := .record <|
  ChaincodeAction.mk <$> field "results" (·.results) <*> field "events" (·.events)
    <*> field "response" (·.response) <*> field "chaincode_id" (·.chaincodeId)

instance : Form ChaincodeEndorsedAction := .record <|
  ChaincodeEndorsedAction.mk <$> field "proposal_response_payload" (·.proposalResponsePayload)
    <*> field "endorsements" (·.endorsements)

instance : Form ChaincodeActionPayload := .record <|
  ChaincodeActionPayload.mk <$> field "chaincode_proposal_payload" (·.chaincodeProposalPayload)
    <*> field "action" (·.action)

instance : Form TransactionAction := .record <|
  TransactionAction.mk <$> field "header" (·.header) <*> field "payload" (·.payload)

instance : Form Transaction := .record <|
  Transaction.mk <$> field "actions" (·.actions)

end LedgerClient
