import LedgerClient.Proofs.Discovery.Search

/-!
# Searches in related worlds

The search for endorsements knows the outside world only by asking peers and waiting. If two
worlds are related, peers answer the same in both and stay so, then the search does the same in
both. The second world may be the first one with something written down beside it, or with
less of it. Only the candidates of the groups are asked, so this need be so for them only.

## Main results

* `Endorse.Simulates.endorse`: endorsing by a plan comes to the same in related worlds.
-/

namespace LedgerClient

namespace Endorse

variable {σ σ' : Type}

/-- As long as two worlds are related by `R`, asking one of the candidates brings the same in
both, and asking and waiting keep them related. -/
structure Simulates (candidate : DiscoveredPeer → Prop) (R : σ → σ' → Prop)
    (ask : DiscoveredPeer → σ → (PeerOutcome × Nat) × σ) (elapse : Nat → σ → σ)
    (ask' : DiscoveredPeer → σ' → (PeerOutcome × Nat) × σ') (elapse' : Nat → σ' → σ') :
    Prop where
  answer : ∀ {s s'} p, candidate p → R s s' → (ask p s).1 = (ask' p s').1
  asked : ∀ {s s'} p, candidate p → R s s' → R (ask p s).2 (ask' p s').2
  elapsed : ∀ {s s'} ms, R s s' → R (elapse ms s) (elapse' ms s')

variable {candidate : DiscoveredPeer → Prop} {R : σ → σ' → Prop}
variable {ask : DiscoveredPeer → σ → (PeerOutcome × Nat) × σ} {elapse : Nat → σ → σ}
variable {ask' : DiscoveredPeer → σ' → (PeerOutcome × Nat) × σ'} {elapse' : Nat → σ' → σ'}
variable {s : σ} {s' : σ'}

/-- Asking candidates at once records the same in both worlds. -/
theorem Simulates.askAll (h : Simulates candidate R ask elapse ask' elapse')
    {batch : List DiscoveredPeer} (hbatch : ∀ p ∈ batch, candidate p) (longest : Nat)
    (a : Attempts) (hs : R s s') :
    (askAll ask elapse batch longest a s).1 = (askAll ask' elapse' batch longest a s').1 ∧
      R (Endorse.askAll ask elapse batch longest a s).2
        (Endorse.askAll ask' elapse' batch longest a s').2 := by
  induction batch generalizing longest a s s' with
  | nil => exact ⟨rfl, h.elapsed longest hs⟩
  | cons p rest ih =>
      obtain ⟨hp, hrest⟩ := List.forall_mem_cons.mp hbatch
      simp only [Endorse.askAll, h.answer p hp hs]
      exact ih hrest _ _ (h.asked p hp hs)

/-- The search in a group comes to the same in both worlds. -/
theorem Simulates.satisfyGroup (h : Simulates candidate R ask elapse ask' elapse')
    {candidates : List DiscoveredPeer} (hcandidates : ∀ p ∈ candidates, candidate p)
    (required : Nat) {a a₁ : Attempts} {found : Option (List String)} {s₁ : σ} (hs : R s s')
    (hrun : a.satisfyGroup ask elapse candidates required s = some (found, a₁, s₁)) :
    ∃ s₁', a.satisfyGroup ask' elapse' candidates required s' = some (found, a₁, s₁') ∧
      R s₁ s₁' := by
  refine Attempts.satisfyGroup.partial_correctness ask elapse candidates required
    (fun a s r => ∀ s', R s s' → ∃ s₁',
      a.satisfyGroup ask' elapse' candidates required s' = some (r.1, r.2.1, s₁') ∧ R r.2.2 s₁')
    ?_ a s _ hrun s' hs
  intro go ih a s r hr s' hs
  rw [Attempts.satisfyGroup]
  simp only at hr ⊢
  split at hr
  · next henough =>
    obtain rfl := Option.some.inj hr
    rw [if_pos henough]
    exact ⟨s', rfl, hs⟩
  next henough =>
  rw [if_neg henough]
  split at hr
  · next hempty =>
    obtain rfl := Option.some.inj hr
    rw [if_pos hempty]
    exact ⟨s', rfl, hs⟩
  next hempty =>
  rw [if_neg hempty]
  have hbatch : ∀ p ∈ (untried candidates a).take
      (required - (endorsedAmong candidates required a).length), candidate p := by
    intro p hp
    exact hcandidates p (List.mem_filter.mp (List.mem_of_mem_take hp)).1
  obtain ⟨hattempts, hworld⟩ := h.askAll hbatch 0 a hs
  rw [← hattempts]
  exact ih _ _ _ hr _ hworld

variable {groups : SortedMap String (List DiscoveredPeer)}

/-- The search for a layout comes to the same in both worlds. -/
theorem Simulates.satisfyLayout (h : Simulates candidate R ask elapse ask' elapse')
    (hgroups : ∀ g, ∀ p ∈ candidatesOf groups g, candidate p)
    {entries : List (String × UInt32)} {selected : List String} {a a₁ : Attempts}
    {found : Option (List String)} {s₁ : σ} (hs : R s s')
    (hrun : satisfyLayout ask elapse groups entries selected a s = some (found, a₁, s₁)) :
    ∃ s₁', Endorse.satisfyLayout ask' elapse' groups entries selected a s' =
      some (found, a₁, s₁') ∧ R s₁ s₁' := by
  induction entries generalizing selected a s s' with
  | nil =>
      obtain ⟨rfl, rfl, rfl⟩ := by simpa [Endorse.satisfyLayout] using hrun
      exact ⟨s', rfl, hs⟩
  | cons e rest ih =>
      obtain ⟨⟨found₂, a₂, s₂⟩, hgroup, hrest⟩ := Option.bind_eq_some_iff.mp hrun
      obtain ⟨s₂', hgroup', hs₂⟩ := h.satisfyGroup (hgroups e.1) _ hs hgroup
      rw [candidatesOf] at hgroup'
      simp only [Endorse.satisfyLayout, hgroup']
      cases found₂ with
      | none =>
          obtain ⟨rfl, rfl, rfl⟩ := by simpa using hrest
          exact ⟨s₂', rfl, hs₂⟩
      | some names => exact ih hs₂ hrest

/-- The search over layouts comes to the same in both worlds. -/
theorem Simulates.satisfyFirst (h : Simulates candidate R ask elapse ask' elapse')
    (hgroups : ∀ g, ∀ p ∈ candidatesOf groups g, candidate p)
    {layouts : List (SortedMap String UInt32)} {a a₁ : Attempts}
    {found : Option (List String)} {s₁ : σ} (hs : R s s')
    (hrun : satisfyFirst ask elapse groups layouts a s = some (found, a₁, s₁)) :
    ∃ s₁', Endorse.satisfyFirst ask' elapse' groups layouts a s' = some (found, a₁, s₁') ∧
      R s₁ s₁' := by
  induction layouts generalizing a s s' with
  | nil =>
      obtain ⟨rfl, rfl, rfl⟩ := by simpa [Endorse.satisfyFirst] using hrun
      exact ⟨s', rfl, hs⟩
  | cons layout rest ih =>
      obtain ⟨⟨found₂, a₂, s₂⟩, hlayout, hrest⟩ := Option.bind_eq_some_iff.mp hrun
      obtain ⟨s₂', hlayout', hs₂⟩ := h.satisfyLayout hgroups hs hlayout
      simp only [Endorse.satisfyFirst, hlayout']
      cases found₂ with
      | none => exact ih hs₂ hrest
      | some selected =>
          obtain ⟨rfl, rfl, rfl⟩ := by simpa using hrest
          exact ⟨s₂', rfl, hs₂⟩

/-- Endorsing by a plan comes to the same in both worlds. -/
theorem Simulates.endorse (h : Simulates candidate R ask elapse ask' elapse')
    {plan : EndorsementPlan} {r : EndorseRequest}
    {shuffle : String → List DiscoveredPeer → List DiscoveredPeer}
    (hgroups : ∀ g, ∀ p ∈ candidatesOf (plan.prepareGroups r shuffle) g, candidate p)
    {result : Except ActionError ProposalResults} {s₁ : σ} (hs : R s s')
    (hrun : plan.endorse ask elapse r shuffle s = some (result, s₁)) :
    ∃ s₁', plan.endorse ask' elapse' r shuffle s' = some (result, s₁') ∧ R s₁ s₁' := by
  obtain ⟨⟨found, a, s₂⟩, hsearch, hrest⟩ := Option.bind_eq_some_iff.mp hrun
  obtain ⟨s₂', hsearch', hs₂⟩ := h.satisfyFirst hgroups hs hsearch
  rw [EndorsementPlan.endorse, hsearch']
  cases found with
  | none =>
      obtain ⟨rfl, rfl⟩ := Prod.mk.inj (Option.some.inj hrest)
      exact ⟨s₂', rfl, hs₂⟩
  | some selected =>
      obtain ⟨rfl, rfl⟩ := Prod.mk.inj (Option.some.inj hrest)
      exact ⟨s₂', rfl, hs₂⟩

end Endorse

end LedgerClient
