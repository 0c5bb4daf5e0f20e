import LedgerClient.Ledger.DecodedBlock
import LedgerClient.Proofs.Message.RoundTrip
import LedgerClient.Proofs.Request.Transaction

/-!
# The layers of a block

From an entry of a block to a chaincode event there are eight layers of encodings. A layer that
is read back fits the widths of its own fields, and so the bytes in it, which are the next layer,
are few enough for that one to be read back as well. The statements here say this for any
transaction, whoever wrote it.

## Main results

* `DecodedAction.decode_encode`: an action is read back through its four layers.
* `DecodedTransaction.decode_encode`: an entry is read back with the actions in it.
-/

namespace LedgerClient

/-! ### Actions -/

/-- An action is read back with the outcome of the chaincode and the endorsements of it. -/
theorem DecodedAction.decode_encode {payload : ChaincodeActionPayload} {hash : Bytes}
    {action : ChaincodeAction} {event : Option ChaincodeEvent}
    (houtcome : payload.action.proposalResponsePayload = Wire.encode
      ({ proposalHash := hash, extension := Wire.encode action } : ProposalResponsePayload))
    (hevents : action.events = (event.map Wire.encode).getD [])
    (hlength : (Wire.encode payload).length < Codec.capacity 8) :
    decode (Wire.encode payload) =
      .ok
        { chaincodeId := action.chaincodeId
          response := action.response
          chaincodeEvent := event
          endorsements := payload.action.endorsements } := by
  -- From the outside inwards: each layer that is read bounds the bytes of the next.
  obtain ⟨hpayload, -, ⟨(houtcomeLength : payload.action.proposalResponsePayload.length < _), -⟩,
    -⟩ := WireType.reads .chaincodeActionPayload hlength
  rw [houtcome] at houtcomeLength
  obtain ⟨hresponse, -, hactionLength, -⟩ :=
    WireType.reads .proposalResponsePayload houtcomeLength
  obtain ⟨haction, -, ⟨(heventLength : action.events.length < _), -⟩, -⟩ :=
    WireType.reads .chaincodeAction hactionLength
  refine bind_eq_ok_iff.mpr ⟨payload, hpayload, ?_⟩
  rw [houtcome]
  refine bind_eq_ok_iff.mpr ⟨_, hresponse, bind_eq_ok_iff.mpr ⟨_, haction, ?_⟩⟩
  rw [hevents] at heventLength ⊢
  cases event with
  | none => rfl
  | some event =>
      obtain ⟨hevent, -⟩ := WireType.reads .chaincodeEvent heventLength
      have hne : ¬ (Wire.encode event).isEmpty = true := by
        rw [List.isEmpty_iff]
        exact (WireType.lawful .chaincodeEvent).encode_ne_nil event
      -- An event takes up bytes, so it is not taken for a missing one.
      simp only [Option.map_some, Option.getD_some, if_neg hne]
      refine bind_eq_ok_iff.mpr ⟨some event, ?_, rfl⟩
      exact congrArg (some <$> ·) hevent

/-! ### Entries -/

namespace DecodedTransaction

/-- The actions in the data of a payload: those of a transaction of an endorser, and none in
data of any other kind, whatever it holds. -/
def actionsOf (kind : Option HeaderType) (data : Bytes) :
    Except DecodeError (List DecodedAction) :=
  if kind = some .endorserTransaction then do
    let transaction : Transaction ← Wire.decode data
    transaction.actions.mapM fun action => DecodedAction.decode action.payload
  else pure []

/-- The actions of a transaction of an endorser are read back if each of them is. -/
theorem actionsOf_encode {α : Type} {xs : List α} {write : α → TransactionAction}
    {read : α → DecodedAction}
    (hlength : (Wire.encode ({ actions := xs.map write } : Transaction)).length <
      Codec.capacity 8)
    (h : ∀ x ∈ xs, (write x).payload.length < Codec.capacity 8 →
      DecodedAction.decode (write x).payload = .ok (read x)) :
    actionsOf (some .endorserTransaction)
      (Wire.encode ({ actions := xs.map write } : Transaction)) = .ok (xs.map read) := by
  obtain ⟨htransaction, -, hactions⟩ := WireType.reads .transaction hlength
  rw [actionsOf, if_pos rfl]
  refine bind_eq_ok_iff.mpr ⟨_, htransaction, mapM_map_eq_ok fun x hx => h x hx ?_⟩
  obtain ⟨-, hpayloadLength, -⟩ := hactions _ (List.mem_map_of_mem hx)
  exact hpayloadLength

/-- An entry is read back with its channel header and the actions in its data. -/
theorem decode_encode (index : Nat) (code : Int32) {envelope : Envelope} {payload : Payload}
    {channelHeader : ChannelHeader} {actions : List DecodedAction}
    (hpayload : envelope.payload = Wire.encode payload)
    (hheader : payload.header.channelHeader = Wire.encode channelHeader)
    (hlength : (Wire.encode envelope).length < Codec.capacity 8)
    (hactions : payload.data.length < Codec.capacity 8 →
      actionsOf channelHeader.kind? payload.data = .ok actions) :
    decode index (Wire.encode envelope) code =
      .ok
        { index
          txId := channelHeader.txId
          channelId := channelHeader.channelId
          headerType := channelHeader.headerType
          timestamp := channelHeader.timestamp
          validationCode := code
          actions } := by
  obtain ⟨henvelope, ⟨(hpayloadLength : envelope.payload.length < _), -⟩, -⟩ :=
    WireType.reads .envelope hlength
  rw [hpayload] at hpayloadLength
  obtain ⟨hdecode, ⟨⟨(hheaderLength : payload.header.channelHeader.length < _), -⟩, -⟩,
    (hdataLength : payload.data.length < _), -⟩ := WireType.reads .payload hpayloadLength
  rw [hheader] at hheaderLength
  obtain ⟨hchannel, -⟩ := WireType.reads .channelHeader hheaderLength
  refine bind_eq_ok_iff.mpr ⟨envelope, henvelope, ?_⟩
  rw [hpayload]
  refine bind_eq_ok_iff.mpr ⟨payload, hdecode, ?_⟩
  rw [hheader]
  refine bind_eq_ok_iff.mpr ⟨channelHeader, hchannel, ?_⟩
  have hread := hactions hdataLength
  by_cases hkind : channelHeader.kind? = some .endorserTransaction
  · rw [actionsOf, if_pos hkind] at hread
    obtain ⟨transaction, htransaction, hall⟩ := bind_eq_ok_iff.mp hread
    rw [if_pos hkind]
    exact bind_eq_ok_iff.mpr
      ⟨transaction, htransaction, bind_eq_ok_iff.mpr ⟨actions, hall, rfl⟩⟩
  · rw [actionsOf, if_neg hkind] at hread
    cases hread
    rw [if_neg hkind]
    rfl

end DecodedTransaction

end LedgerClient
