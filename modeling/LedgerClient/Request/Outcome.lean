import LedgerClient.Request.ActionError

/-!
# Outcomes of proposals

What became of a proposal at each peer, and the division of the outcomes into responses and
errors. A response whose chaincode reports a status of 400 or more counts as an error.
-/

namespace LedgerClient

/-- What became of a proposal at one peer. -/
structure PeerOutcome where
  peer : String
  connection : ConnectionInfo
  result : Except ServiceError ProposalResponse

/-- A response that is no error. -/
structure PeerResponse where
  peer : String
  connection : ConnectionInfo
  response : ProposalResponse
  deriving DecidableEq, Repr

/-- The lowest status that reports an error. -/
def ProposalResponse.errorStatus : Int32 := 400

/-- The status that query results have. -/
def ProposalResponse.successStatus : Int32 := 200

/-- Whether the chaincode reports an error. -/
def ProposalResponse.isError (r : ProposalResponse) : Bool :=
  errorStatus ≤ r.response.status

namespace PeerOutcome

/-- Whether the peer answered at all. -/
def isAnswer (o : PeerOutcome) : Bool := o.result.isOk

/-- The outcome as a response. -/
def response? (o : PeerOutcome) : Option PeerResponse :=
  match o.result with
  | .ok r => if r.isError then none else some ⟨o.peer, o.connection, r⟩
  | .error _ => none

/-- The outcome as a failure. -/
def failure? (o : PeerOutcome) : Option PeerFailure :=
  match o.result with
  | .ok r =>
    if r.isError then
      some ⟨o.peer, .remote o.connection (toString r.response.status.toInt) r.response.message⟩
    else none
  | .error e => some ⟨o.peer, e⟩

/-- Every outcome is either a response or a failure. -/
theorem isSome_response?_xor_failure? (o : PeerOutcome) :
    o.response?.isSome = !o.failure?.isSome := by
  unfold response? failure?
  split
  · split <;> rfl
  · rfl

end PeerOutcome

/-- The responses and failures among some outcomes, each in their order. -/
structure ProposalResults where
  responses : List PeerResponse := []
  errors : List PeerFailure := []
  deriving DecidableEq, Repr, Inhabited

namespace ProposalResults

/-- Divides outcomes into responses and failures. -/
def ofOutcomes (outcomes : List PeerOutcome) : ProposalResults where
  responses := outcomes.filterMap PeerOutcome.response?
  errors := outcomes.filterMap PeerOutcome.failure?

/-- The payloads of the responses that report success. -/
def queryResults (r : ProposalResults) : List Bytes :=
  (r.responses.filter fun p => p.response.response.status == ProposalResponse.successStatus).map
    fun p => p.response.response.payload

/-- Whether there are responses and all peers came to the same outcome. -/
def agree (r : ProposalResults) : Bool :=
  match r.responses with
  | [] => false
  | first :: rest => rest.all fun p => p.response.payload == first.response.payload

/-- Whether no peer was asked. -/
def isEmpty (r : ProposalResults) : Bool :=
  r.responses.isEmpty && r.errors.isEmpty

end ProposalResults

end LedgerClient
