import LedgerClient.Proofs.Discovery.Duplicates
import LedgerClient.Proofs.Request.Transaction

/-!
# From endorsements to a transaction

What the transaction carries that is made of an endorsement by plan. Whatever peers answer, no
peer responds twice, and the transaction has the endorsement of every response that holds one.
It carries the outcome of the first of them. Whether the others came to the same outcome is not
looked at; `ProposalResults.agree` tells.

## Main results

* `Endorse.nodup_responders_of_endorse`: no peer responds twice.
* `commit_of_endorse`: what the transaction carries.
* `commit_of_disagreeing`: endorsements of another outcome, and a response without endorsement.
-/

namespace LedgerClient

open Endorse

namespace Endorse

variable {σ : Type} {ask : DiscoveredPeer → σ → (PeerOutcome × Nat) × σ} {elapse : Nat → σ → σ}

/-! ### What recording keeps, every search keeps -/

section Recorded

variable {P : Attempts → Prop} (hrecord : ∀ o {a : Attempts}, P a → P (a.record o))
include hrecord

theorem askAll_keeps (batch : List DiscoveredPeer) (longest : Nat) {a : Attempts} (s : σ)
    (ha : P a) : P (askAll ask elapse batch longest a s).1 := by
  induction batch generalizing longest a s with
  | nil => exact ha
  | cons p rest ih => exact ih _ _ (hrecord _ ha)

theorem satisfyGroup_keeps {candidates : List DiscoveredPeer} {required : Nat} {a : Attempts}
    {s : σ} {r : Option (List String) × Attempts × σ} (ha : P a)
    (h : a.satisfyGroup ask elapse candidates required s = some r) : P r.2.1 := by
  refine Attempts.satisfyGroup.partial_correctness ask elapse candidates required
    (fun a _ r => P a → P r.2.1) ?_ a s r h ha
  intro go ih a s r hr ha
  simp only at hr
  split at hr
  · obtain rfl := Option.some.inj hr
    exact ha
  split at hr
  · obtain rfl := Option.some.inj hr
    exact ha
  · exact ih _ _ _ hr (askAll_keeps hrecord _ _ _ ha)

theorem satisfyLayout_keeps {groups : SortedMap String (List DiscoveredPeer)}
    {entries : List (String × UInt32)} {selected : List String} {a : Attempts} {s : σ}
    {r : Option (List String) × Attempts × σ} (ha : P a)
    (h : satisfyLayout ask elapse groups entries selected a s = some r) : P r.2.1 := by
  induction entries generalizing selected a s with
  | nil =>
      obtain rfl := Option.some.inj h
      exact ha
  | cons e rest ih =>
      obtain ⟨⟨found, a₁, s₁⟩, hgroup, hrest⟩ := Option.bind_eq_some_iff.mp h
      have ha₁ : P a₁ := satisfyGroup_keeps hrecord ha hgroup
      cases found with
      | none =>
          obtain rfl := Option.some.inj hrest
          exact ha₁
      | some names => exact ih ha₁ hrest

theorem satisfyFirst_keeps {groups : SortedMap String (List DiscoveredPeer)}
    {layouts : List (SortedMap String UInt32)} {a : Attempts} {s : σ}
    {r : Option (List String) × Attempts × σ} (ha : P a)
    (h : satisfyFirst ask elapse groups layouts a s = some r) : P r.2.1 := by
  induction layouts generalizing a s with
  | nil =>
      obtain rfl := Option.some.inj h
      exact ha
  | cons layout rest ih =>
      obtain ⟨⟨found, a₁, s₁⟩, hlayout, hrest⟩ := Option.bind_eq_some_iff.mp h
      have ha₁ : P a₁ := satisfyLayout_keeps hrecord ha hlayout
      cases found with
      | none => exact ih ha₁ hrest
      | some selected =>
          obtain rfl := Option.some.inj hrest
          exact ha₁

/-- The results of endorsing by a plan come from a record that keeps what recording keeps. -/
theorem exists_attempts_of_endorse {plan : EndorsementPlan} {r : EndorseRequest}
    {shuffle : String → List DiscoveredPeer → List DiscoveredPeer} {s s' : σ}
    {results : ProposalResults}
    (hempty : P {}) (h : plan.endorse ask elapse r shuffle s = some (.ok results, s')) :
    ∃ a selected, P a ∧ results = a.results selected := by
  obtain ⟨⟨found, a, s₁⟩, hsearch, hrest⟩ := Option.bind_eq_some_iff.mp h
  have ha : P a := satisfyFirst_keeps hrecord hempty hsearch
  cases found with
  | none => exact absurd (Prod.mk.inj (Option.some.inj hrest)).1 (by simp)
  | some selected =>
      obtain ⟨hresults, -⟩ := Prod.mk.inj (Option.some.inj hrest)
      exact ⟨a, selected, ha, (Except.ok.inj hresults).symm⟩

end Recorded

end Endorse

/-! ### Who responds -/

/-- Responses come from peers with an outcome, in the same order. -/
theorem ProposalResults.responders_sublist (outcomes : List PeerOutcome) :
    (ofOutcomes outcomes).responders.Sublist (outcomes.map PeerOutcome.peer) := by
  induction outcomes with
  | nil => exact List.Sublist.refl _
  | cons o rest ih =>
      rw [ofOutcomes, responders] at ih ⊢
      cases hresponse : o.response? with
      | none =>
          rw [List.filterMap_cons_none hresponse]
          exact ih.cons o.peer
      | some x =>
          rw [List.filterMap_cons_some hresponse, List.map_cons, List.map_cons,
            Attempts.peer_of_response? hresponse]
          exact ih.cons_cons o.peer

/-- In the results of a sound record no peer responds twice. -/
theorem Attempts.Sound.nodup_responders {a : Attempts} (ha : a.Sound) (selected : List String) :
    (a.results selected).responders.Nodup := by
  refine List.Nodup.sublist (ProposalResults.responders_sublist _) ?_
  have hpeers : ∀ outcomes : List (String × PeerOutcome), (∀ e ∈ outcomes, e ∈ a.outcomes) →
      (outcomes.map Prod.snd).map PeerOutcome.peer = outcomes.map Prod.fst := by
    intro outcomes houtcomes
    rw [List.map_map]
    exact List.map_congr_left fun e he => ha.peer_eq e (houtcomes e he)
  rw [hpeers _ fun e he => List.mem_of_mem_filter he]
  exact ha.nodup.sublist (List.filter_sublist.map Prod.fst)

/-- Whatever peers answer, in the results of endorsing by a plan no peer responds twice. -/
theorem Endorse.nodup_responders_of_endorse {σ : Type}
    {ask : DiscoveredPeer → σ → (PeerOutcome × Nat) × σ} {elapse : Nat → σ → σ}
    {plan : EndorsementPlan} {r : EndorseRequest}
    {shuffle : String → List DiscoveredPeer → List DiscoveredPeer} {s s' : σ}
    {results : ProposalResults}
    (h : plan.endorse ask elapse r shuffle s = some (.ok results, s')) :
    results.responders.Nodup := by
  obtain ⟨a, selected, ha, rfl⟩ :=
    exists_attempts_of_endorse (P := Attempts.Sound) (fun o _ ha => ha.record o) .empty h
  exact ha.nodup_responders selected

/-! ### From sending to a commit -/

/-- What a handler comes back with is recorded for the proposal that was sent. -/
theorem Proposal.sendThrough_eq_ok_iff {σ : Type}
    {handler : SignedProposal → σ → Option (Except ActionError ProposalResults × σ)}
    {p p' : Proposal} {s s' : σ} {results : ProposalResults} :
    p.sendThrough handler s = some (.ok results, p', s') ↔
      ∃ signed, p.signed = .ok signed ∧ handler signed s = some (.ok results, s') ∧
        p' = p.record results := by
  rw [sendThrough]
  constructor
  · intro h
    cases hsigned : p.signed with
    | error e =>
        rw [hsigned] at h
        exact absurd (Prod.mk.inj (Option.some.inj h)).1 (by simp)
    | ok signed =>
        rw [hsigned] at h
        obtain ⟨⟨result, s₁⟩, hhandler, hrest⟩ := Option.bind_eq_some_iff.mp h
        cases result with
        | error e => exact absurd (Prod.mk.inj (Option.some.inj hrest)).1 (by simp)
        | ok results' =>
            obtain ⟨hresults, hrest⟩ := Prod.mk.inj (Option.some.inj hrest)
            obtain ⟨rfl, rfl⟩ := Prod.mk.inj hrest
            cases hresults
            exact ⟨signed, rfl, hhandler, rfl⟩
  · rintro ⟨signed, hsigned, hhandler, rfl⟩
    simp only [hsigned, hhandler]
    rfl

/-- If responses agree, any two of them have the same outcome. -/
theorem ProposalResults.payload_eq_of_agree {results : ProposalResults}
    (h : results.agree = true) {x y : ProposalResponse} (hx : x ∈ results.given)
    (hy : y ∈ results.given) : x.payload = y.payload := by
  rw [agree] at h
  split at h
  · cases h
  · next first rest hresponses =>
    rw [List.all_eq_true] at h
    have hfirst : ∀ z ∈ results.given, z.payload = first.response.payload := by
      intro z hz
      rw [given, hresponses, List.map_cons] at hz
      rcases List.mem_cons.mp hz with rfl | hz
      · rfl
      · obtain ⟨x', hx', rfl⟩ := List.mem_map.mp hz
        exact eq_of_beq (h x' hx')
    rw [hfirst x hx, hfirst y hy]

/-- The transaction of an endorsement by plan, whatever peers answer. No peer responds twice.
The transaction carries in order the endorsements of the responses, one of each response that
holds one, and the outcome of the first of these; if the responses agree, it is the outcome of
all. If outcomes report the peer that was asked, and layouts require at most one peer of a group
that lists a peer twice, the responses are those that some layout requires. -/
theorem commit_of_endorse {σ : Type}
    {ask : SignedProposal → DiscoveredPeer → σ → (PeerOutcome × Nat) × σ} {elapse : Nat → σ → σ}
    {plan : EndorsementPlan} {r : EndorseRequest}
    {shuffle : String → List DiscoveredPeer → List DiscoveredPeer} {signer : Signer}
    {p p' : Proposal}
    {s s' : σ} {results : ProposalResults} {c c' : Commit}
    (hsend : p.sendThrough (fun signed => plan.endorse (ask signed) elapse r shuffle) s =
      some (.ok results, p', s'))
    (hcommit : Commit.ofProposal p' = .ok c) (hbuild : c.build signer = .ok c') :
    results.responders.Nodup ∧
      (∃ header invocation first,
        ProposalResponse.firstEndorsed? results.given = some first ∧
        c'.state.payload = some (Wire.encode (Payload.ofAction header (Commit.actionOf invocation
          first.payload (ProposalResponse.endorsements results.given)))) ∧
        (results.agree = true → ∀ x ∈ results.given, x.payload = first.payload)) ∧
      ∀ I : σ → Prop, (∀ signed, Truthful (ask signed) elapse I) → I s →
        (∀ layout ∈ plan.layouts, ∀ e ∈ layout.entries,
          Apart (candidatesOf (plan.prepareGroups r shuffle) e.1) e.2.toNat) →
        ∃ layout ∈ plan.layouts,
          CoversDistinctly (plan.prepareGroups r shuffle) layout results := by
  obtain ⟨signed, -, hendorse, rfl⟩ := Proposal.sendThrough_eq_ok_iff.mp hsend
  obtain ⟨header, invocation, first, hfirst, hpayload⟩ :=
    Commit.payload_of_record hcommit hbuild
  refine ⟨nodup_responders_of_endorse hendorse, ?_, ?_⟩
  · refine ⟨header, invocation, first, hfirst, hpayload, ?_⟩
    intro hagree x hx
    exact ProposalResults.payload_eq_of_agree hagree hx (List.mem_of_find?_eq_some hfirst)
  · intro I htruthful hs hapart
    obtain ⟨result, s₁, asked, hrun, -, hcovers⟩ :=
      frugal_of_apart hapart σ (ask signed) elapse I s (htruthful signed) hs
    obtain ⟨rfl, -⟩ := Prod.mk.inj (Option.some.inj (hendorse.symm.trans (endorse_of_noting hrun)))
    exact hcovers results rfl

/-! ### Peers that come to different outcomes -/

/-- A built and signed proposal. -/
def Proposal.sample : Except ActionError Proposal := do
  let p ← Proposal.new .endorsement "cc" "ch"
  (← p.build .sample {} {}).sign .sample

/-- None of the peers reports an error. The first two endorse different outcomes, the others
endorse none. -/
def disagreeing (p : DiscoveredPeer) (_ : Unit) : (PeerOutcome × Nat) × Unit :=
  let response : ProposalResponse :=
    if p.name = "p1:1" then { payload := [1], endorsement := some { endorser := [1] } }
    else if p.name = "p2:1" then { payload := [2], endorsement := some { endorser := [2] } }
    else { payload := [3] }
  (({ peer := p.name, connection := { name := p.name }, result := .ok response }, 0), ())

/-- A plan that requires three peers. -/
def EndorsementPlan.sample : EndorsementPlan :=
  let peer (name : String) : DiscoveredPeer := { DiscoveredPeer.sample with name }
  { chaincode := "cc"
    groups := (∅ : SortedMap String (List DiscoveredPeer)).insert "G1"
      [peer "p1:1", peer "p2:1", peer "p3:1"]
    layouts := [(∅ : SortedMap String UInt32).insert "G1" 3] }

/-- Sending the proposal to these peers by this plan brings three responses, of which a commit
is built. -/
theorem built_of_disagreeing :
    ∃ p, Proposal.sample = .ok p ∧ ∃ results p',
      p.sendThrough (fun _ => EndorsementPlan.sample.endorse disagreeing (fun _ => id)
        { sort := .random } (fun _ => id)) () = some (.ok results, p', ()) ∧
      results.given =
        [{ payload := [1], endorsement := some { endorser := [1] } },
          { payload := [2], endorsement := some { endorser := [2] } }, { payload := [3] }] ∧
      ∃ c, Commit.ofProposal p' = .ok c ∧ ∃ c', c.build .sample = .ok c' := by
  obtain ⟨a, hgroup, hresponses⟩ : ∃ a,
      Attempts.satisfyGroup disagreeing (fun _ => id)
        (candidatesOf (EndorsementPlan.sample.prepareGroups { sort := .random } fun _ => id) "G1")
        3 {} () =
          some (some ["p1:1", "p2:1", "p3:1"], a, ()) ∧
      (a.results ["p1:1", "p2:1", "p3:1"]).given =
        [{ payload := [1], endorsement := some { endorser := [1] } },
          { payload := [2], endorsement := some { endorser := [2] } }, { payload := [3] }] := by
    rw [Attempts.satisfyGroup, if_neg (by decide), if_neg (by decide), Attempts.satisfyGroup,
      if_pos (by decide)]
    exact ⟨_, rfl, rfl⟩
  have hrun :=
    endorse_of_satisfyGroup EndorsementPlan.sample { sort := .random } (fun _ => id) rfl hgroup
  have hfirst := congrArg ProposalResponse.firstEndorsed? hresponses
  exact ⟨_, rfl, a.results ["p1:1", "p2:1", "p3:1"], _,
    Proposal.sendThrough_eq_ok_iff.mpr ⟨_, rfl, hrun, rfl⟩, hresponses, _, rfl, _,
    Commit.build_eq_ok_iff.mpr
      ⟨_, Commit.assemble_eq_ok_iff.mpr ⟨_, _, _, _, hfirst, rfl, rfl, rfl, rfl, rfl⟩, rfl⟩⟩

/-- With three responders the transaction carries two endorsements, and the second of them was
not given for the outcome that it carries. -/
theorem commit_of_disagreeing :
    ∃ p p' results c c' header action, Proposal.sample = .ok p ∧
      p.sendThrough (fun _ => EndorsementPlan.sample.endorse disagreeing (fun _ => id)
        { sort := .random } (fun _ => id)) () = some (.ok results, p', ()) ∧
      Commit.ofProposal p' = .ok c ∧ c.build .sample = .ok c' ∧
      c'.state.payload = some (Wire.encode (Payload.ofAction header action)) ∧
      action.action.endorsements.length ≠ results.responders.length ∧
      ∃ e ∈ action.action.endorsements, ∀ x ∈ results.given,
        x.endorsement = some e → x.payload ≠ action.action.proposalResponsePayload := by
  obtain ⟨p, hp, results, p', hsend, hgiven, c, hcommit, c', hbuild⟩ := built_of_disagreeing
  obtain ⟨signed, -, -, rfl⟩ := Proposal.sendThrough_eq_ok_iff.mp hsend
  obtain ⟨header, invocation, first, hfirst, hpayload⟩ := Commit.payload_of_record hcommit hbuild
  have hresponders : results.responders.length = results.given.length := by
    rw [ProposalResults.responders, ProposalResults.given, List.length_map, List.length_map]
  rw [hgiven] at hfirst hresponders hpayload
  cases hfirst
  refine ⟨p, _, results, c, c', header, _, hp, hsend, hcommit, hbuild, hpayload, ?_,
    { endorser := [2] }, ?_, ?_⟩
  · rw [hresponders]
    exact Nat.ne_of_beq_eq_false rfl
  · exact List.mem_cons_of_mem _ List.mem_cons_self
  · rw [hgiven]
    change ∀ x ∈ ([_, _, _] : List ProposalResponse),
      x.endorsement = some { endorser := [2] } → x.payload ≠ [1]
    decide

/-- Three different peers have responded, as the layout requires. -/
theorem commit_of_endorse_sample :
    ∃ p p' results c c', Proposal.sample = .ok p ∧
      p.sendThrough (fun _ => EndorsementPlan.sample.endorse disagreeing (fun _ => id)
        { sort := .random } (fun _ => id)) () = some (.ok results, p', ()) ∧
      Commit.ofProposal p' = .ok c ∧ c.build .sample = .ok c' ∧ results.responders.Nodup ∧
      ∃ layout ∈ EndorsementPlan.sample.layouts, CoversDistinctly
        (EndorsementPlan.sample.prepareGroups { sort := .random } fun _ => id) layout results := by
  obtain ⟨p, hp, results, p', hsend, -, c, hcommit, c', hbuild⟩ := built_of_disagreeing
  obtain ⟨hnodup, -, hcovers⟩ := commit_of_endorse hsend hcommit hbuild
  refine ⟨p, p', results, c, c', hp, hsend, hcommit, hbuild, hnodup, ?_⟩
  refine hcovers (fun _ => True) (fun _ => ⟨fun _ _ => rfl, fun _ _ => trivial, fun _ _ => trivial⟩)
    trivial ?_
  intro layout hlayout e he
  obtain rfl := List.mem_singleton.mp hlayout
  obtain rfl := List.mem_singleton.mp he
  exact .inr (by decide)

end LedgerClient
