import LedgerClient.Message.Wire

/-!
# Messages without their time

The form in which a signed message shows what it says but not when it was made: the time in
its channel header, if there is one, is set to zero. Messages made for one request at
different times have the same form.
-/

namespace LedgerClient

/-- The channel header at time zero. -/
def ChannelHeader.timeless (h : ChannelHeader) : ChannelHeader :=
  { h with timestamp := h.timestamp.map fun _ => {} }

/-- The header with its channel header at time zero. -/
def Header.timeless (h : Header) : Except DecodeError Header := do
  let channelHeader : ChannelHeader ← Wire.decode h.channelHeader
  return { h with channelHeader := Wire.encode channelHeader.timeless }

/-- The timeless form of an encoded proposal. -/
def ChaincodeProposal.timeless (bytes : Bytes) : Except DecodeError Bytes := do
  let proposal : ChaincodeProposal ← Wire.decode bytes
  let header : Header ← Wire.decode proposal.header
  return Wire.encode { proposal with header := Wire.encode (← header.timeless) }

/-- The timeless form of an encoded payload. -/
def Payload.timeless (bytes : Bytes) : Except DecodeError Bytes := do
  let payload : Payload ← Wire.decode bytes
  return Wire.encode { payload with header := ← payload.header.timeless }

/-- Messages made for one request at different times have the same form. -/
theorem ChannelHeader.timeless_with_timestamp (h : ChannelHeader) (t u : Timestamp) :
    ({ h with timestamp := some t } : ChannelHeader).timeless
      = ({ h with timestamp := some u } : ChannelHeader).timeless := rfl

end LedgerClient
