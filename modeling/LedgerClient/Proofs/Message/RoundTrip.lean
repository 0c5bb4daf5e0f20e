import LedgerClient.Message.Wire
import LedgerClient.Proofs.Codec.Choice

/-!
# Every message is read back

Each wire type is built from lawful parts, so what is written as a value of it is read back as
this value, whatever bytes stand behind it.

## Main results

* `Wire.decode_encode_append_iff`: exactly the values that fit their widths are read back, and
  those are all with an encoding shorter than a length can tell.
-/

namespace LedgerClient

open Codec (Lawful)

/-! ### Headers and envelopes -/

instance : HeaderType.codec.Lawful :=
  .enumeration fun a => by cases a <;> decide

instance : Status.codec.Lawful :=
  .enumeration fun a => by cases a <;> decide

instance : Timestamp.codec.Lawful := .record

instance : ChannelHeader.codec.Lawful := .record

instance : SignatureHeader.codec.Lawful := .record

instance : Header.codec.Lawful := .record

instance : Payload.codec.Lawful := .record

instance : Envelope.codec.Lawful := .record

/-! ### Blocks -/

instance : BlockHeader.codec.Lawful := .record

instance : BlockData.codec.Lawful := .record

instance : BlockMetadata.codec.Lawful := .record

instance : Block.codec.Lawful := .record

instance : ChaincodeEvent.codec.Lawful := .record

instance : FilteredChaincodeAction.codec.Lawful := .record

instance : FilteredTransactionActions.codec.Lawful := .record

instance : FilteredTransaction.codec.Lawful := .record

instance : FilteredBlock.codec.Lawful := .record

instance : CollectionPvtReadWriteSet.codec.Lawful := .record

instance : NsPvtReadWriteSet.codec.Lawful := .record

instance : TxPvtReadWriteSet.codec.Lawful := .record

instance : PrivateDataMap.codec.Lawful := Lawful.sortedMap

/-! ### Proposals and transactions -/

instance : ChaincodeId.codec.Lawful := .record

instance : ChaincodeInput.codec.Lawful := .record

instance : ChaincodeSpec.codec.Lawful := .record

instance : ChaincodeInvocationSpec.codec.Lawful := .record

instance : ChaincodeHeaderExtension.codec.Lawful := .record

instance : ChaincodeProposalPayload.codec.Lawful := .record

instance : ChaincodeProposal.codec.Lawful := .record

instance : SignedProposal.codec.Lawful := .record

instance : Response.codec.Lawful := .record

instance : Endorsement.codec.Lawful := .record

instance : ProposalResponse.codec.Lawful := .record

instance : ProposalResponsePayload.codec.Lawful := .record

instance : ChaincodeAction.codec.Lawful := .record

instance : ChaincodeEndorsedAction.codec.Lawful := .record

instance : ChaincodeActionPayload.codec.Lawful := .record

instance : TransactionAction.codec.Lawful := .record

instance : Transaction.codec.Lawful := .record

/-! ### Broadcast and delivery -/

instance : BlockType.codec.Lawful :=
  .enumeration fun a => by cases a <;> decide

namespace SeekPosition

theorem variants_sound : ∀ v ∈ variants, v.Sound := by
  simp only [variants, List.mem_cons, List.not_mem_nil, or_false, forall_eq_or_imp, forall_eq]
  refine ⟨⟨fun a _ => ?_, .unit⟩,
    ⟨fun a _ => ?_, .unit⟩,
    ⟨fun a _ => ?_, Lawful.u64.toFaithful⟩⟩ <;>
    cases a <;> simp

theorem variants_partitions : Codec.Partitions variants where
  covers a := by cases a <;> simp [variants]
  apart := by simp [variants]

instance : codec.Lawful := .choice variants_sound variants_partitions

end SeekPosition

instance : SeekBehavior.codec.Lawful :=
  .enumeration fun a => by cases a <;> decide

instance : SeekInfo.codec.Lawful := .record

instance : BroadcastResponse.codec.Lawful := .record

namespace DeliverResponse

theorem variants_sound : ∀ v ∈ variants, v.Sound := by
  simp only [variants, List.mem_cons, List.not_mem_nil, or_false, forall_eq_or_imp, forall_eq]
  refine ⟨⟨fun a _ => ?_, Lawful.toFaithful⟩,
    ⟨fun a _ => ?_, Lawful.toFaithful⟩,
    ⟨fun a _ => ?_, Lawful.toFaithful⟩,
    ⟨fun a _ => ?_, Lawful.toFaithful⟩⟩ <;>
    cases a <;> simp [Prod.ext_iff]

theorem variants_partitions : Codec.Partitions variants where
  covers a := by cases a <;> simp [variants]
  apart := by simp [variants]

instance : codec.Lawful := .choice variants_sound variants_partitions

end DeliverResponse

/-! ### Gossip and membership -/

instance : SerializedIdentity.codec.Lawful := .record

instance : OrganizationalUnitIdentifier.codec.Lawful := .record

instance : FabricMspConfig.codec.Lawful := .record

instance : MspConfig.codec.Lawful := .record

instance : GossipEnvelope.codec.Lawful := .record

instance : Member.codec.Lawful := .record

instance : AliveMessage.codec.Lawful := .record

instance : InstalledChaincode.codec.Lawful := .record

instance : Properties.codec.Lawful := .record

instance : StateInfo.codec.Lawful := .record

namespace GossipContent

theorem variants_sound : ∀ v ∈ variants, v.Sound := by
  simp only [variants, List.mem_cons, List.not_mem_nil, or_false, forall_eq_or_imp, forall_eq]
  refine ⟨⟨fun a _ => ?_, Lawful.toFaithful⟩,
    ⟨fun a _ => ?_, Lawful.toFaithful⟩,
    ⟨fun a _ => ?_, .unit⟩⟩ <;>
    cases a <;> simp

theorem variants_partitions : Codec.Partitions variants where
  covers a := by cases a <;> simp [variants]
  apart := by simp [variants]

instance : codec.Lawful := .choice variants_sound variants_partitions

end GossipContent

instance : GossipMessage.codec.Lawful := .record

/-! ### Discovery -/

instance : AuthInfo.codec.Lawful := .record

instance : ChaincodeCall.codec.Lawful := .record

instance : ChaincodeInterest.codec.Lawful := .record

namespace QueryKind

theorem variants_sound : ∀ v ∈ variants, v.Sound := by
  simp only [variants, List.mem_cons, List.not_mem_nil, or_false, forall_eq_or_imp, forall_eq]
  refine ⟨⟨fun a _ => ?_, .unit⟩,
    ⟨fun a _ => ?_, .unit⟩,
    ⟨fun a _ => ?_, .unit⟩,
    ⟨fun a _ => ?_, Lawful.toFaithful⟩⟩ <;>
    cases a <;> simp

theorem variants_partitions : Codec.Partitions variants where
  covers a := by cases a <;> simp [variants]
  apart := by simp [variants]

instance : codec.Lawful := .choice variants_sound variants_partitions

end QueryKind

instance : Query.codec.Lawful := .record

instance : DiscoveryRequest.codec.Lawful := .record

instance : SignedRequest.codec.Lawful := .record

instance : OrdererEndpoint.codec.Lawful := .record

instance : Endpoints.codec.Lawful := .record

instance : ConfigResult.codec.Lawful := .record

instance : DiscoveryPeer.codec.Lawful := .record

instance : Peers.codec.Lawful := .record

instance : PeerMembershipResult.codec.Lawful := .record

instance : Layout.codec.Lawful := .record

instance : EndorsementDescriptor.codec.Lawful := .record

instance : ChaincodeQueryResult.codec.Lawful := .record

namespace QueryResult

theorem variants_sound : ∀ v ∈ variants, v.Sound := by
  simp only [variants, List.mem_cons, List.not_mem_nil, or_false, forall_eq_or_imp, forall_eq]
  refine ⟨⟨fun a _ => ?_, Lawful.toFaithful⟩,
    ⟨fun a _ => ?_, Lawful.toFaithful⟩,
    ⟨fun a _ => ?_, Lawful.toFaithful⟩,
    ⟨fun a _ => ?_, Lawful.toFaithful⟩⟩ <;>
    cases a <;> simp

theorem variants_partitions : Codec.Partitions variants where
  covers a := by cases a <;> simp [variants]
  apart := by simp [variants]

instance : codec.Lawful := .choice variants_sound variants_partitions

end QueryResult

instance : DiscoveryResponse.codec.Lawful := .record

/-! ### Nodes, block numbers and verdicts -/

instance : ConnectionInfo.codec.Lawful := .record

instance : BlockNumber.codec.Lawful := .record

namespace BlockPosition

theorem variants_sound : ∀ v ∈ variants, v.Sound := by
  simp only [variants, List.mem_cons, List.not_mem_nil, or_false, forall_eq_or_imp, forall_eq]
  refine ⟨⟨fun a _ => ?_, .unit⟩,
    ⟨fun a _ => ?_, .unit⟩,
    ⟨fun a _ => ?_, .unit⟩,
    ⟨fun a _ => ?_, Lawful.toFaithful⟩⟩ <;>
    cases a <;> simp [number?]

theorem variants_partitions : Codec.Partitions variants where
  covers a := by cases a <;> simp [variants, number?]
  apart := by simp [variants, number?]

instance : codec.Lawful := .choice variants_sound variants_partitions

end BlockPosition

instance : ValidationCode.codec.Lawful :=
  .enumeration fun a => by cases a <;> decide

/-! ### All wire types -/

/-- The laws hold of every wire type. -/
instance WireType.lawful (t : WireType) : (Wire.codec (α := t.Carrier)).Lawful := by
  cases t <;> simp only [Wire.codec] <;> infer_instance

namespace Wire

section

variable {α : Type} [Wire α] [hc : (codec (α := α)).Lawful]

/-- A value that fits is read back, whatever stands behind it. -/
theorem decode_encode_append {a : α} (h : (codec (α := α)).Fits a) (tail : Bytes) :
    decode (encode a ++ tail) = .ok a := by
  rw [decode, encode, hc.decode_encode h]

/-- What is read fits. -/
theorem fits_of_decode {bytes : Bytes} {a : α} (h : decode bytes = .ok a) :
    (codec (α := α)).Fits a := by
  rw [decode] at h
  split at h
  · next a' rest hdecode =>
    cases h
    exact hc.fits_of_decode hdecode
  · cases h

end

/-- Of every wire type, exactly the values that fit their widths are read back from what was
written, whatever stands behind it; and a value that does not fit takes up more bytes than a
length of eight bytes can tell. -/
theorem decode_encode_append_iff (t : WireType) (v : t.Carrier) :
    ((∀ tail, decode (encode v ++ tail) = .ok v) ↔ (codec (α := t.Carrier)).Fits v) ∧
      ((codec (α := t.Carrier)).Fits v ∨ Codec.capacity 8 ≤ (encode v).length) := by
  refine ⟨⟨fun h => fits_of_decode (h []), decode_encode_append⟩, ?_⟩
  by_cases hlength : (encode v).length < Codec.capacity 8
  · exact .inl (t.lawful.fits_of_length hlength)
  · exact .inr (Nat.le_of_not_lt hlength)

end Wire

/-- A value in few enough bytes is read back, and its parts fit. -/
theorem WireType.reads (t : WireType) {v : t.Carrier}
    (h : (Wire.encode v).length < Codec.capacity 8) :
    Wire.decode (Wire.encode v) = .ok v ∧ (Wire.codec (α := t.Carrier)).Fits v := by
  have hfits := t.lawful.fits_of_length h
  have hdecode := Wire.decode_encode_append hfits []
  rw [List.append_nil] at hdecode
  exact ⟨hdecode, hfits⟩

end LedgerClient
