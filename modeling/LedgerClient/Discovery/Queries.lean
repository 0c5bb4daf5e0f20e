import LedgerClient.Discovery.Error
import LedgerClient.Message.Wire
import LedgerClient.Request.SignState

/-!
# Discovery requests

The list of queries that a discovery request asks, with a tag for each that tells later how
its answer is to be read. Channel members are always asked for.
-/

namespace LedgerClient

/-- What a query of a request was about. -/
inductive QueryTag where
  | config
  | members
  | chaincode
  | localPeers
  deriving DecidableEq, Repr

/-- What to ask for besides the members of the channel. -/
structure DiscoveryWish where
  config : Bool := true
  /-- The peers that the answering peer knows, whatever their channels. -/
  localPeers : Bool := false
  /-- The invocations to ask an endorsement plan for. -/
  interest : List ChaincodeInterest := []
  deriving DecidableEq, Repr, Inhabited

namespace DiscoveryWish

/-- The queries for a channel with their tags, in the order they are asked. -/
def queries (channel : String) (w : DiscoveryWish) : List (Query × QueryTag) :=
  (if w.config then [(({ channel, query := .config } : Query), .config)] else [])
    ++ [({ channel, query := .peers }, .members)]
    ++ (if w.interest.isEmpty then []
      else [({ channel, query := .chaincodes w.interest }, .chaincode)])
    ++ (if w.localPeers then [({ channel := "", query := .localPeers }, .localPeers)] else [])

/-- The request for a channel. -/
def request (signer : Signer) (channel : String) (w : DiscoveryWish) :
    Except DiscoveryError DiscoveryRequest :=
  if channel.isEmpty then .error (.missingParameter "channel")
  else
    match signer.serialize with
    | .error e => .error (.action (.crypto e))
    | .ok clientIdentity =>
      .ok
        { authentication := some
            { clientIdentity, clientTlsCertHash := signer.certHash.getD [] }
          queries := (w.queries channel).map Prod.fst }

end DiscoveryWish

/-- A built and perhaps signed request, with the tags of its queries. -/
structure QueryList where
  state : SignState := {}
  tags : List QueryTag := []
  deriving DecidableEq, Repr, Inhabited

namespace QueryList

/-- The name of the request in errors. -/
def action : String := "Discovery"

/-- Lets a call act on the state of a request. -/
def onState {α : Type} (x : RequestM ActionError SignState α) :
    RequestM DiscoveryError QueryList α :=
  .onPart state (fun state q => { q with state }) (x.adaptExcept .action)

/-- Builds the request for a channel; the answer is its payload. -/
def building (signer : Signer) (channel : String) (wish : DiscoveryWish) :
    RequestM DiscoveryError QueryList Bytes := do
  let request ← .lift (wish.request signer channel)
  let bytes := Wire.encode request
  onState (modify fun s => s.setPayload bytes)
  modify fun q => { q with tags := (wish.queries channel).map Prod.snd }
  return bytes

/-- Signs the built request. -/
def signing (signer : Signer) : RequestM DiscoveryError QueryList Unit :=
  onState (SignState.signing action signer)

/-- Attaches a signature made elsewhere. -/
def attaching (signature : Bytes) : RequestM DiscoveryError QueryList Unit :=
  onState (SignState.attaching action signature)

/-- The request as discovery services receive it. -/
def signed (q : QueryList) : Except DiscoveryError SignedRequest := do
  let e ← (q.state.envelope action).mapError .action
  return { payload := e.payload, signature := e.signature }

end QueryList

end LedgerClient
