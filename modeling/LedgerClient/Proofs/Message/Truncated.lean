import LedgerClient.Proofs.Codec.SelfDelimiting
import LedgerClient.Proofs.Message.Accepted

/-!
# Messages that are cut short

The encoding of every wire type shows where it ends: what is read of a message is read the same
whatever stands behind it. So a message that is cut short is refused, wherever the cut falls,
and never read as another message with the missing part left out.

## Main results

* `WireType.selfDelimiting`: the encodings of every wire type show their end.
* `WireType.cut_refused`: of the beginnings of an encoding only the whole is accepted.
-/

namespace LedgerClient

open Codec (SelfDelimiting)

/-! ### Types with maps -/

instance : PrivateDataMap.codec.SelfDelimiting := SelfDelimiting.sortedMap

instance : ChaincodeInput.codec.SelfDelimiting := SelfDelimiting.iso

instance : ChaincodeSpec.codec.SelfDelimiting := SelfDelimiting.iso

instance : ChaincodeInvocationSpec.codec.SelfDelimiting := SelfDelimiting.iso

instance : ChaincodeProposalPayload.codec.SelfDelimiting := SelfDelimiting.iso

instance : DeliverResponse.codec.SelfDelimiting :=
  .choice <| by
    simp only [DeliverResponse.variants, List.forall_mem_cons]
    exact ⟨inferInstance, inferInstance, inferInstance, inferInstance, List.forall_mem_nil _⟩

instance : ConfigResult.codec.SelfDelimiting := SelfDelimiting.iso

instance : PeerMembershipResult.codec.SelfDelimiting := SelfDelimiting.iso

instance : Layout.codec.SelfDelimiting := SelfDelimiting.iso

instance : EndorsementDescriptor.codec.SelfDelimiting := SelfDelimiting.iso

instance : ChaincodeQueryResult.codec.SelfDelimiting := SelfDelimiting.iso

instance : QueryResult.codec.SelfDelimiting :=
  .choice <| by
    simp only [QueryResult.variants, List.forall_mem_cons]
    exact ⟨inferInstance, inferInstance, inferInstance, inferInstance, List.forall_mem_nil _⟩

instance : DiscoveryResponse.codec.SelfDelimiting := SelfDelimiting.iso

/-! ### All wire types -/

namespace WireType

/-- The encodings of every wire type show their end. -/
theorem selfDelimiting (t : WireType) : (Wire.codec (α := t.Carrier)).SelfDelimiting := by
  cases hmaps : t.mapFree with
  | true =>
      have := canonical hmaps
      infer_instance
  | false =>
      cases t <;> simp only [mapFree, Bool.true_eq_false] at hmaps <;> simp only [Wire.codec] <;>
        infer_instance

/-- Whatever the type and the value: of the beginnings of its encoding only the whole is accepted,
and every other one is refused as bytes of this type, whether the cut falls in a number, a length,
a text, a nested list or map, or between two fields. The value needs to fit the widths of its
lengths; one that does not takes up more bytes than a length can tell. -/
theorem cut_refused (t : WireType) (v : t.Carrier) :
    ((Wire.codec (α := t.Carrier)).Fits v → ∀ cut, cut <+: Wire.encode v → cut ≠ Wire.encode v →
      ∃ fault, Wire.decode (α := t.Carrier) cut = .error ⟨t.name, fault⟩) ∧
    ((Wire.codec (α := t.Carrier)).Fits v ∨ Codec.capacity 8 ≤ (Wire.encode v).length) := by
  refine ⟨?_, (Wire.decode_encode_append_iff t v).2⟩
  intro hfits cut hcut hne
  have := t.selfDelimiting
  obtain ⟨fault, hfault⟩ := SelfDelimiting.decode_error_of_cut hfits hcut hne
  exact ⟨fault, Wire.decode_of_error hfault⟩

/-- An answer with a plan, without its last byte: a number in the last layout is too short. -/
theorem cut_refused_plan :
    let plan : EndorsementDescriptor :=
      { chaincode := "cc", layouts := [{ quantitiesByGroup := .ofList [("G1", 2)] }] }
    let answer : DiscoveryResponse := { results := [.chaincodes { content := [plan] }] }
    (Wire.codec (α := DiscoveryResponse)).Fits answer ∧
      (Wire.encode answer).dropLast ≠ Wire.encode answer ∧
      ∃ fault, Wire.decode (α := DiscoveryResponse) (Wire.encode answer).dropLast =
        .error ⟨"DiscoveryResponse", fault⟩ := by
  intro plan answer
  have hlawful := lawful .discoveryResponse
  have hfits : (Wire.codec (α := DiscoveryResponse)).Fits answer :=
    hlawful.fits_of_length (by decide)
  have hne : (Wire.encode answer).dropLast ≠ Wire.encode answer := by
    intro heq
    have hpos : 0 < (Wire.encode answer).length := hlawful.length_encode_pos answer
    have hshort := congrArg List.length heq
    rw [List.length_dropLast] at hshort
    omega
  exact ⟨hfits, hne,
    (cut_refused .discoveryResponse answer).1 hfits _ (List.dropLast_prefix _) hne⟩

end WireType

end LedgerClient
