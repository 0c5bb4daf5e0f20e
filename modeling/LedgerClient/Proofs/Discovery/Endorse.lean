import LedgerClient.Proofs.Discovery.Peers

/-!
# Endorsing over a channel

What endorsing by the plan of a discovery comes to.

## Main results

* `ChannelDiscovery.endorse_first_satisfiable`: the first layout in order that can be satisfied
  is satisfied; if none can be, endorsing fails, and nobody was left out who could help.
-/

namespace LedgerClient

open Endorse

/-! ### The first layout that can be satisfied -/

/-- Once its results are renewed, endorsing by a discovery with a plan always comes to its
end. If some layout of the plan can be satisfied by the peers as they answer then, the
results satisfy the first such layout in order. Otherwise endorsing fails, and in every
layout there is a group all of whose candidates were asked. A peer endorses if its outcome
is a response below the error status (`PeerOutcome.endorses_iff`). -/
theorem ChannelDiscovery.endorse_first_satisfiable {d d₁ : ChannelDiscovery} {w w₁ : World}
    {results : DiscoveryResults} {plan : EndorsementPlan} (proposal : SignedProposal)
    (r : EndorseRequest) (shuffle : String → List DiscoveredPeer → List DiscoveredPeer)
    (hnamed : w.EndorsersNamed d.channel)
    (hrefreshed : d.refreshed w = (.ok results, d₁, w₁))
    (hplan : results.tree.plan = some plan) :
    let ask := World.askPeer d.channel proposal r.timeout
    let groups := plan.prepareGroups r shuffle
    let endorses := fun p => (ask p w₁).1.1.endorses
    ∃ result w₂ asked,
      d.endorse proposal r shuffle w = some (result, d₁, w₂) ∧
      plan.endorse (noting ask) (beside World.elapse) r shuffle (w₁, []) =
        some (result, w₂, asked) ∧
      match plan.layouts.find? (satisfiable groups endorses) with
      | some layout => ∃ results, result = .ok results ∧ Satisfies groups layout results
      | none => (∃ reason failures, result = .error (.endorsementFailed reason failures)) ∧
          ∀ layout ∈ plan.layouts, ∃ e ∈ layout.entries,
            ∀ p ∈ candidatesOf groups e.1, p.name ∈ asked := by
  intro ask groups endorses
  obtain ⟨hnamed₁, hchannel⟩ := ChannelDiscovery.refreshed_endorsersNamed hnamed
  rw [hrefreshed] at hnamed₁ hchannel
  simp only at hnamed₁ hchannel
  obtain ⟨result, w₂, asked, hrun, -, hdecides⟩ :=
    (hnamed₁.steady proposal r.timeout).endorse_decides plan r shuffle (World.Alike.refl w₁)
  refine ⟨result, w₂, asked, ?_, hrun, hdecides⟩
  simp only [ChannelDiscovery.endorse, hrefreshed, hplan, hchannel]
  rw [endorse_of_noting hrun]
  rfl

/-- A peer. -/
def DiscoveredPeer.sample : DiscoveredPeer :=
  { name := "p1:1", mspid := "Org1", host := "p1", port := 1, ledgerHeight := some ⟨0⟩
    chaincodes := [] }

/-- A discovery that keeps a plan of one group with one peer. The first of its layouts asks
for a group that the plan does not have. -/
def ChannelDiscovery.sample : ChannelDiscovery :=
  let plan : EndorsementPlan :=
    { chaincode := "cc"
      groups := (∅ : SortedMap String (List DiscoveredPeer)).insert "G1" [.sample]
      layouts := [(∅ : SortedMap String UInt32).insert "G2" 1,
        (∅ : SortedMap String UInt32).insert "G1" 1] }
  { name := "d", channel := ⟨0⟩, config := {}
    results := some { tree := { plan := some plan }, timestamp := 0, serial := 1 } }

/-- A world in which this peer is on the channel and endorses. -/
def World.sample : World :=
  { network := { endorsers := { sites := ⟨[{ behaviour := { reply := .ok {} } }]⟩ } }
    peers := ⟨[{ link :=
      { name := "p1:1", kind := .endorser, mspid := none, client := some ⟨0⟩ } }]⟩
    channels := ⟨[{ name := "ch"
                    endorsers := (∅ : SortedMap String PeerId).insert "p1:1" ⟨0⟩ }]⟩ }

/-- The second layout is satisfied when the first one cannot be. -/
theorem endorse_second_layout :
    ∃ results w₂,
      ChannelDiscovery.sample.endorse {} { sort := .random } (fun _ => id) World.sample =
        some (.ok results, ChannelDiscovery.sample, w₂) ∧ "p1:1" ∈ results.responders := by
  have hnamed : World.sample.EndorsersNamed ChannelDiscovery.sample.channel := by
    intro c hc name id hget
    obtain rfl := Option.some.inj hc
    simp only [SortedMap.get?_insert] at hget
    split at hget
    · next heq =>
      obtain rfl := Option.some.inj hget
      rw [heq]
      rfl
    · exact absurd hget.symm (Option.some_ne_none id)
  obtain ⟨result, w₂, asked, hrun, -, hdecides⟩ :=
    ChannelDiscovery.endorse_first_satisfiable {} { sort := .random } (fun _ => id) hnamed rfl rfl
  obtain ⟨results, rfl, hsat⟩ : ∃ results, result = .ok results ∧
      Satisfies ((∅ : SortedMap String (List DiscoveredPeer)).insert "G1" [.sample])
        ((∅ : SortedMap String UInt32).insert "G1" 1) results := hdecides
  refine ⟨results, w₂, hrun, ?_⟩
  have henough : 1 ≤ [DiscoveredPeer.sample].countP fun p =>
      results.responders.contains p.name := hsat.enough ("G1", 1) List.mem_cons_self
  obtain ⟨p, hp, hresponded⟩ := List.countP_pos_iff.mp henough
  obtain rfl := List.mem_singleton.mp hp
  exact List.contains_iff_mem.mp hresponded

end LedgerClient
