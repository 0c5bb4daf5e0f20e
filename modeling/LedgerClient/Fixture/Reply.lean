import LedgerClient.Message.Wire

/-!
# Sample replies

What a well-behaved endorsing peer and ordering service answer, built from the few things
that matter of the answer.
-/

namespace LedgerClient.Sample

/-- The response of an endorsing peer whose chaincode answered as given. An error is not
endorsed. -/
def proposalResponse (response : Response) : ProposalResponse :=
  let outcome : ChaincodeAction := { response }
  let payload : ProposalResponsePayload :=
    { proposalHash := List.replicate 32 0, extension := Wire.encode outcome }
  { version := 1
    response
    payload := Wire.encode payload
    endorsement :=
      if response.status < 400 then
        some { endorser := Utf8.encode "mock-endorser", signature := List.replicate 64 7 }
      else none }

/-- The answer of an ordering service that takes a transaction in. -/
def accepted : BroadcastResponse :=
  { status := .success, info := "" }

/-- The answer of an ordering service that turns a transaction away. -/
def rejected (status : Status) : BroadcastResponse :=
  { status, info := s!"rejected with {status.label}" }

end LedgerClient.Sample
