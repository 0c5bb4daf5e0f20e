import LedgerClient.Proofs.Codec.Canonical
import LedgerClient.Proofs.Codec.Place
import LedgerClient.Proofs.Message.RoundTrip

/-!
# Which bytes are accepted

Each value of a wire type without a map is read from one encoding only. A map may be spelled in
many ways, but in each the last pair with a key counts, and what was read can be written and read
again. Nowhere is a length accepted that asks for more than the bytes can hold.

## Main results

* `WireType.canonical`: the types whose values have one encoding.
* `WireType.accepted`: what is accepted of every wire type.
-/

namespace LedgerClient

open Codec (Canonical HasMap)

/-! ### Headers and envelopes -/

instance : HeaderType.codec.Canonical := .enumeration

instance : Status.codec.Canonical := .enumeration

instance : Timestamp.codec.Canonical := .record

instance : ChannelHeader.codec.Canonical := .record

instance : SignatureHeader.codec.Canonical := .record

instance : Header.codec.Canonical := .record

instance : Payload.codec.Canonical := .record

instance : Envelope.codec.Canonical := .record

/-! ### Blocks -/

instance : BlockHeader.codec.Canonical := .record

instance : BlockData.codec.Canonical := .record

instance : BlockMetadata.codec.Canonical := .record

instance : Block.codec.Canonical := .record

instance : ChaincodeEvent.codec.Canonical := .record

instance : FilteredChaincodeAction.codec.Canonical := .record

instance : FilteredTransactionActions.codec.Canonical := .record

instance : FilteredTransaction.codec.Canonical := .record

instance : FilteredBlock.codec.Canonical := .record

instance : CollectionPvtReadWriteSet.codec.Canonical := .record

instance : NsPvtReadWriteSet.codec.Canonical := .record

instance : TxPvtReadWriteSet.codec.Canonical := .record

/-! ### Proposals and transactions -/

instance : ChaincodeId.codec.Canonical := .record

instance : ChaincodeHeaderExtension.codec.Canonical := .record

instance : ChaincodeProposal.codec.Canonical := .record

instance : SignedProposal.codec.Canonical := .record

instance : Response.codec.Canonical := .record

instance : Endorsement.codec.Canonical := .record

instance : ProposalResponse.codec.Canonical := .record

instance : ProposalResponsePayload.codec.Canonical := .record

instance : ChaincodeAction.codec.Canonical := .record

instance : ChaincodeEndorsedAction.codec.Canonical := .record

instance : ChaincodeActionPayload.codec.Canonical := .record

instance : TransactionAction.codec.Canonical := .record

instance : Transaction.codec.Canonical := .record

/-! ### Broadcast and delivery -/

instance : BlockType.codec.Canonical := .enumeration

instance : SeekPosition.codec.Canonical :=
  .choice SeekPosition.variants_sound SeekPosition.variants_partitions <| by
    simp only [SeekPosition.variants, List.forall_mem_cons]
    exact ⟨inferInstance, inferInstance, inferInstance, List.forall_mem_nil _⟩

instance : SeekBehavior.codec.Canonical := .enumeration

instance : SeekInfo.codec.Canonical := .record

instance : BroadcastResponse.codec.Canonical := .record

/-! ### Gossip and membership -/

instance : SerializedIdentity.codec.Canonical := .record

instance : OrganizationalUnitIdentifier.codec.Canonical := .record

instance : FabricMspConfig.codec.Canonical := .record

instance : MspConfig.codec.Canonical := .record

instance : GossipEnvelope.codec.Canonical := .record

instance : Member.codec.Canonical := .record

instance : AliveMessage.codec.Canonical := .record

instance : InstalledChaincode.codec.Canonical := .record

instance : Properties.codec.Canonical := .record

instance : StateInfo.codec.Canonical := .record

instance : GossipContent.codec.Canonical :=
  .choice GossipContent.variants_sound GossipContent.variants_partitions <| by
    simp only [GossipContent.variants, List.forall_mem_cons]
    exact ⟨inferInstance, inferInstance, inferInstance, List.forall_mem_nil _⟩

instance : GossipMessage.codec.Canonical := .record

/-! ### Discovery -/

instance : AuthInfo.codec.Canonical := .record

instance : ChaincodeCall.codec.Canonical := .record

instance : ChaincodeInterest.codec.Canonical := .record

instance : QueryKind.codec.Canonical :=
  .choice QueryKind.variants_sound QueryKind.variants_partitions <| by
    simp only [QueryKind.variants, List.forall_mem_cons]
    exact ⟨inferInstance, inferInstance, inferInstance, inferInstance, List.forall_mem_nil _⟩

instance : Query.codec.Canonical := .record

instance : DiscoveryRequest.codec.Canonical := .record

instance : SignedRequest.codec.Canonical := .record

instance : OrdererEndpoint.codec.Canonical := .record

instance : Endpoints.codec.Canonical := .record

instance : DiscoveryPeer.codec.Canonical := .record

instance : Peers.codec.Canonical := .record

/-! ### Nodes, block numbers and verdicts -/

instance : ConnectionInfo.codec.Canonical := .record

instance : BlockNumber.codec.Canonical := .record

instance : BlockPosition.codec.Canonical :=
  .choice BlockPosition.variants_sound BlockPosition.variants_partitions <| by
    simp only [BlockPosition.variants, List.forall_mem_cons]
    exact ⟨inferInstance, inferInstance, inferInstance, inferInstance, List.forall_mem_nil _⟩

instance : ValidationCode.codec.Canonical := .enumeration

/-! ### Types with maps -/

namespace WireType

/-- Whether a type contains no map. -/
def mapFree : WireType → Bool
  | privateDataMap | chaincodeInput | chaincodeSpec | chaincodeInvocationSpec
  | chaincodeProposalPayload | deliverResponse | configResult | peerMembershipResult | layout
  | endorsementDescriptor | chaincodeQueryResult | queryResult | discoveryResponse => false
  | _ => true

/-- The values of the types without a map have one encoding each. -/
theorem canonical {t : WireType} (h : t.mapFree = true) :
    (Wire.codec (α := t.Carrier)).Canonical := by
  cases t <;> simp only [mapFree, Bool.false_eq_true] at h <;> simp only [Wire.codec] <;>
    infer_instance

/-- The other types do contain one. -/
theorem hasMap {t : WireType} (h : t.mapFree = false) : HasMap (Wire.codec (α := t.Carrier)) := by
  have hinput : HasMap ChaincodeInput.codec := ((HasMap.here _ _).first.second []).iso
  have hspec : HasMap ChaincodeSpec.codec := (hinput.second {}).iso
  have hconfig : HasMap ConfigResult.codec := (HasMap.here _ _).first.iso
  have hdescriptor : HasMap EndorsementDescriptor.codec := ((HasMap.here _ _).first.second "").iso
  have hblocks : HasMap (Block.codec.pair PrivateDataMap.codec) := (HasMap.here _ _).second {}
  have hresult : HasMap QueryResult.codec := .choice 1 hconfig QueryResult.variants_sound
  cases t <;> simp only [mapFree, Bool.true_eq_false] at h
  case privateDataMap => exact .here _ _
  case chaincodeInput => exact hinput
  case chaincodeSpec => exact hspec
  case chaincodeInvocationSpec => exact hspec.iso
  case chaincodeProposalPayload => exact ((HasMap.here _ _).second []).iso
  case deliverResponse => exact .choice 3 hblocks DeliverResponse.variants_sound
  case configResult => exact hconfig
  case peerMembershipResult => exact (HasMap.here _ _).iso
  case layout => exact (HasMap.here _ _).iso
  case endorsementDescriptor => exact hdescriptor
  case chaincodeQueryResult => exact hdescriptor.list.iso
  case queryResult => exact hresult
  case discoveryResponse => exact hresult.list.iso

end WireType

namespace Wire

variable {α : Type} [Wire α]

theorem decode_eq_ok_iff {bytes : Bytes} {a : α} :
    decode bytes = .ok a ↔ ∃ rest, (codec (α := α)).decode bytes = .ok (a, rest) := by
  rw [decode]
  constructor
  · intro h
    split at h
    · next a' rest hdecode =>
      cases h
      exact ⟨rest, hdecode⟩
    · cases h
  · rintro ⟨rest, hdecode⟩
    rw [hdecode]

theorem decode_of_error {bytes : Bytes} {fault : DecodeFault}
    (h : (codec (α := α)).decode bytes = .error fault) :
    decode (α := α) bytes = .error ⟨name α, fault⟩ := by
  rw [decode, h]

end Wire

namespace WireType

open Codec (Place Within Wide capacity writeLow sortedMap)

/-- What is accepted of a wire type. A value of a type without a map is read from nothing but its
encoding, and every value that is read can be written and read again. Where a map stands the
value holds for each key the last pair, so the order of pairs with different keys does not matter.
A length of a text, a list or a map that asks for more than is left is never accepted. -/
theorem accepted (t : WireType) :
    (∀ {bytes : Bytes} {v : t.Carrier}, Wire.decode bytes = .ok v →
      (t.mapFree = true → Wire.encode v <+: bytes) ∧ Wire.decode (Wire.encode v) = .ok v) ∧
    (∀ {κ ν : Type} [Ord κ] [Std.TransOrd κ] [Std.LawfulEqOrd κ] [DecidableEq κ]
      {key : Codec κ} {value : Codec ν} {before : Bytes} {get : t.Carrier → Option (SortedMap κ ν)},
      Place (Wire.codec (α := t.Carrier)) before (sortedMap key value) get →
      (∀ {tail : Bytes} {v : t.Carrier}, Wire.decode (before ++ tail) = .ok v →
        ∃ pairs rest m, (Codec.list (key.pair value)).decode tail = .ok (pairs, rest) ∧
          get v = some m ∧ ∀ k, m.get? k = SortedMap.lookup k pairs.reverse) ∧
      ∀ {tail tail' rest : Bytes} {pairs pairs' : List (κ × ν)},
        (Codec.list (key.pair value)).decode tail = .ok (pairs, rest) →
        (Codec.list (key.pair value)).decode tail' = .ok (pairs', rest) →
        (∀ k, (pairs.filter fun e => e.1 = k) = pairs'.filter fun e => e.1 = k) →
        Wire.decode (α := t.Carrier) (before ++ tail) = Wire.decode (before ++ tail')) ∧
    (∀ {before rest : Bytes} {n : Nat}, Within (Wire.codec (α := t.Carrier)) before Codec.text →
      n < capacity 8 → rest.length < n →
      Wire.decode (α := t.Carrier) (before ++ (writeLow 8 n ++ rest)) =
        .error ⟨t.name, .textPastEnd⟩) ∧
    ∀ {β : Type} {x : Codec β} {width : Nat} {before rest : Bytes} {n : Nat},
      Within (Wire.codec (α := t.Carrier)) before (Codec.list x) → x.Wide width →
      n < capacity 8 → rest.length < n * width →
      ∃ fault, Wire.decode (α := t.Carrier) (before ++ (writeLow 8 n ++ rest)) =
        .error ⟨t.name, fault⟩ := by
  refine ⟨?_, ?_, ?_, ?_⟩
  · intro bytes v h
    refine ⟨fun hfree => ?_, ?_⟩
    · obtain ⟨rest, hdecode⟩ := Wire.decode_eq_ok_iff.1 h
      exact ⟨rest, ((canonical hfree).eq_encode_append hdecode).symm⟩
    · have hback := Wire.decode_encode_append (Wire.fits_of_decode h) []
      rwa [List.append_nil] at hback
  · intro κ ν _ _ _ _ key value before get hplace
    refine ⟨?_, ?_⟩
    · intro tail v h
      obtain ⟨rest, hdecode⟩ := Wire.decode_eq_ok_iff.1 h
      exact hplace.last_pairs hdecode
    · intro tail tail' rest pairs pairs' hpairs hpairs' horder
      rw [Wire.decode, Wire.decode, hplace.order_irrelevant hpairs hpairs' horder]
  · intro before rest n hwithin hn hlength
    exact Wire.decode_of_error (hwithin.text_error hn hlength)
  · intro β x width before rest n hwithin hwide hn hlength
    obtain ⟨fault, hfault⟩ := hwithin.list_error hwide hn hlength
    exact ⟨fault, Wire.decode_of_error hfault⟩

/-- Private data in which one transaction is given twice, and a count that nothing stands behind. -/
theorem accepted_private_data :
    let entry (model : Nat) := writeLow 8 5 ++ (writeLow 4 model ++ writeLow 8 0)
    (∃ v : PrivateDataMap, Wire.decode (writeLow 8 2 ++ (entry 1 ++ entry 2)) = .ok v ∧
      v.get? 5 = some { dataModel := 2 } ∧ Wire.decode (Wire.encode v) = .ok v) ∧
    ∃ fault, Wire.decode (α := PrivateDataMap) (writeLow 8 (capacity 8 - 1) ++ entry 1) =
      .error ⟨"PrivateDataMap", fault⟩ := by
  intro entry
  obtain ⟨hback, hmaps, -, hlist⟩ := accepted .privateDataMap
  have hplace : Place PrivateDataMap.codec [] PrivateDataMap.codec some := .here _
  refine ⟨?_, ?_⟩
  · obtain ⟨v, hv⟩ : ∃ v : PrivateDataMap,
        Wire.decode (writeLow 8 2 ++ (entry 1 ++ entry 2)) = .ok v := ⟨_, rfl⟩
    obtain ⟨pairs, rest, m, hpairs, hm, hlast⟩ := (hmaps hplace).1 hv
    cases hm
    cases hpairs
    exact ⟨v, hv, hlast 5, (hback hv).2⟩
  · have hwithin : Within PrivateDataMap.codec []
        (Codec.list (Codec.u64.pair TxPvtReadWriteSet.codec)) := .pairs hplace (.place (.here _))
    have hset : TxPvtReadWriteSet.codec.Wide (4 + 8) :=
      ((Wide.fixed 4).iso.iso.pair (Wide.list Canonical.wide)).iso
    have hwide : (Codec.u64.pair TxPvtReadWriteSet.codec).Wide (8 + (4 + 8)) :=
      (Wide.fixed 8).iso.pair hset
    have hlength : (entry 1).length < (capacity 8 - 1) * (8 + (4 + 8)) := by decide
    have hfail := hlist hwithin hwide (by decide) hlength
    exact hfail

end WireType

end LedgerClient
