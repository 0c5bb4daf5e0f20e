import LedgerClient.Request.ActionError

/-!
# Headers of new requests

The headers that proposals and seek requests have in common.
-/

namespace LedgerClient

/-- The channel header of a new request, made at the time `now`. -/
def ChannelHeader.forRequest (kind : HeaderType) (now : Timestamp) (channelId txId : String)
    (extension : Bytes) (certHash : Option Bytes) : ChannelHeader :=
  { headerType := kind.code
    version := 1
    timestamp := some now
    channelId
    txId
    epoch := 0
    extension
    tlsCertHash := certHash.getD [] }

/-- The header of a new request: the channel header, and the signer with its nonce. -/
def Header.forRequest (signer : Signer) (channelHeader : ChannelHeader) (tx : TransactionId) :
    Except ActionError Header :=
  match signer.serialize with
  | .error e => .error (.crypto e)
  | .ok creator =>
    .ok
      { channelHeader := Wire.encode channelHeader
        signatureHeader := Wire.encode ({ creator, nonce := tx.nonce } : SignatureHeader) }

end LedgerClient
