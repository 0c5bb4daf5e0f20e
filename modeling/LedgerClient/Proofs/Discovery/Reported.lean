import LedgerClient.Proofs.Discovery.Duplicates

/-!
# What an endorsement reports

The search keeps one record for all layouts, and the results are made of it at the end. Here
it is written down beside the world which entries were asked, in order, and what became of
it each time. The results are read off this report: the errors are those who were asked and
have not endorsed when they were asked last, the responses are those who were selected for the
layout that was satisfied, both in the order in which peers were asked first. Who endorsed for a
layout that was given up is in neither list.

## Main results

* `Endorse.Truthful.endorse_answers`: what endorsing by a plan answers, and what was reported.
* `ChannelDiscovery.endorse_reported`: so does endorsing by a discovery.
-/

namespace LedgerClient

namespace Endorse

variable {σ : Type}

/-! ### The report -/

/-- A world with a report beside it: the entries that were asked, in order, and what became of
it. -/
structure Reporting (σ : Type) where
  world : σ
  report : List (DiscoveredPeer × PeerOutcome) := []

namespace Reporting

/-- Asks, and reports what became of it. -/
def ask (ask : DiscoveredPeer → σ → (PeerOutcome × Nat) × σ) (p : DiscoveredPeer)
    (s : Reporting σ) : (PeerOutcome × Nat) × Reporting σ :=
  let (answer, world) := ask p s.world
  (answer, ⟨world, s.report ++ [(p, answer.1)]⟩)

/-- Lets time pass beside the report. -/
def elapse (elapse : Nat → σ → σ) (ms : Nat) (s : Reporting σ) : Reporting σ :=
  { s with world := elapse ms s.world }

end Reporting

section Report

variable (report : List (DiscoveredPeer × PeerOutcome))

/-- The peers that were asked, in the order they were asked first. -/
def firstAsked : List String :=
  (report.map fun e => e.1.name).eraseDups

/-- What became of asking a peer the last time. -/
def lastOutcome (n : String) : Option PeerOutcome :=
  (report.filter fun e => e.1.name == n).getLast?.map Prod.snd

/-- Whether a peer has endorsed when it was asked last. -/
def lastEndorses (n : String) : Bool :=
  (lastOutcome report n).any PeerOutcome.endorses

/-- Asking a peer adds it to those that were asked, if it is not there. -/
theorem firstAsked_concat (p : DiscoveredPeer) (o : PeerOutcome) :
    firstAsked (report ++ [(p, o)]) =
      if p.name ∈ firstAsked report then firstAsked report
      else firstAsked report ++ [p.name] := by
  simp only [firstAsked, List.map_append, List.map_cons, List.map_nil, List.eraseDups_append,
    List.mem_eraseDups]
  split
  · next hmem => simp [List.removeAll, hmem]
  · next hmem => simp [List.removeAll, hmem, List.eraseDups_cons]

/-- What became of asking a peer counts for this peer from then on. -/
theorem lastOutcome_concat (p : DiscoveredPeer) (o : PeerOutcome) (n : String) :
    lastOutcome (report ++ [(p, o)]) n =
      if n = p.name then some o else lastOutcome report n := by
  simp only [lastOutcome, List.filter_append]
  split
  · next heq => simp [heq]
  · next hne => simp [Ne.symm hne]

/-- A group of the layout was used up: all of its candidates were asked, and too few of them
have endorsed. -/
def Abandoned (groups : SortedMap String (List DiscoveredPeer))
    (layout : SortedMap String UInt32) : Prop :=
  ∃ e ∈ layout.entries, (∀ p ∈ candidatesOf groups e.1, p.name ∈ firstAsked report) ∧
    (candidatesOf groups e.1).countP (fun p => lastEndorses report p.name) < e.2.toNat

/-- The errors are the peers that were asked and have not endorsed when they were asked last,
in the order they were asked first, with what became of it. -/
structure ReportsErrors (errors : List PeerFailure) : Prop where
  peers : errors.map PeerFailure.peer =
    (firstAsked report).filter fun n => !lastEndorses report n
  failure : ∀ f ∈ errors, ∃ o, lastOutcome report f.peer = some o ∧ o.failure? = some f

/-- The responses are the peers that were chosen for the groups of a layout, in the order they
were asked first, with what they answered. For each group the required number of its
candidates was chosen. Everybody else that was asked is an error, or has endorsed in vain and
is left out. -/
structure ReportsLayout (groups : SortedMap String (List DiscoveredPeer))
    (layout : SortedMap String UInt32) (chosen : List (List String))
    (results : ProposalResults) : Prop where
  quantities : List.Forall₂ (fun e names => names.length = e.2.toNat ∧
    names.Sublist (namesOf (candidatesOf groups e.1))) layout.entries chosen
  responders : results.responders = (firstAsked report).filter chosen.flatten.contains
  responded : ∀ n ∈ chosen.flatten, n ∈ results.responders
  response : ∀ x ∈ results.responses, x.response.response.status < 400 ∧
    ∃ o, lastOutcome report x.peer = some o ∧ o.response? = some x
  errors : ReportsErrors report results.errors
  distinct : (results.responders ++ results.errors.map PeerFailure.peer).Nodup
  leftOut : ∀ n ∈ firstAsked report, lastEndorses report n = true → n ∉ chosen.flatten →
    n ∉ results.responders ∧ n ∉ results.errors.map PeerFailure.peer

end Report

/-! ### The record and the report -/

/-- The record of a search says what was reported. -/
structure Reported (I : σ → Prop) (a : Attempts) (s : Reporting σ) : Prop where
  sound : a.Sound
  names : a.names = firstAsked s.report
  outcome : ∀ n, a.outcome? n = lastOutcome s.report n
  world : I s.world

variable {ask : DiscoveredPeer → σ → (PeerOutcome × Nat) × σ} {elapse : Nat → σ → σ}
variable {I : σ → Prop}

/-- At the beginning there is nothing to report. -/
theorem Reported.empty {s : σ} (hs : I s) : Reported I {} { world := s } :=
  ⟨.empty, rfl, fun _ => rfl, hs⟩

/-- If outcomes report the peer that was asked, the record goes on saying what was reported. -/
theorem Truthful.keeps_reported (h : Truthful ask elapse I) :
    Keeps (Reporting.ask ask) (Reporting.elapse elapse) False (Reported I) where
  sound := Reported.sound
  peer := fun p hk => h.peer p hk.world
  recorded := by
    intro a s p hk _
    have hpeer := h.peer p hk.world
    refine ⟨hk.sound.record _, ?_, ?_, h.asked p hk.world⟩
    · simp only [Reporting.ask, Attempts.names_record, hpeer, Attempts.tried_iff, hk.names,
        firstAsked_concat]
    · intro n
      simp only [Reporting.ask, Attempts.outcome?_record, hpeer, hk.outcome, lastOutcome_concat]
  elapsed := fun ms hk => ⟨hk.sound, hk.names, hk.outcome, h.elapsed ms hk.world⟩

variable {a : Attempts} {s : Reporting σ}

/-- Who has endorsed by the record has endorsed when asked last. -/
theorem Reported.endorsed (hk : Reported I a s) (n : String) :
    a.endorsed n = lastEndorses s.report n := by
  rw [Attempts.endorsed, hk.outcome]
  rfl

/-- The errors of the record are those that were reported. -/
theorem Reported.errors (hk : Reported I a s) (selected : List String) :
    ReportsErrors s.report (a.results selected).errors where
  peers := by
    rw [hk.sound.errors_results, hk.sound.map_peer Attempts.peer_of_failure?, hk.names]
    refine List.filter_congr ?_
    intro n hn
    obtain ⟨o, ho⟩ : ∃ o, a.outcome? n = some o := by
      rw [← hk.names] at hn
      obtain ⟨e, he, rfl⟩ := List.mem_map.mp hn
      exact ⟨e.2, hk.sound.outcome?_eq he⟩
    rw [lastEndorses, ← hk.outcome, ho, Option.any_some, Option.any_some, PeerOutcome.endorses,
      o.isSome_response?_xor_failure?, Bool.not_not]
  failure := by
    intro f hf
    rw [hk.sound.errors_results] at hf
    obtain ⟨n, -, hn⟩ := List.mem_filterMap.mp hf
    obtain ⟨o, ho, hfail⟩ := Option.bind_eq_some_iff.mp hn
    have hpeer : f.peer = n :=
      (Attempts.peer_of_failure? hfail).trans (hk.sound.peer_of_outcome? ho)
    exact ⟨o, by rw [hpeer, ← hk.outcome, ho], hfail⟩

variable {groups : SortedMap String (List DiscoveredPeer)} {layout : SortedMap String UInt32}

/-- A layout that has failed by the record was given up. -/
theorem Reported.abandoned (hk : Reported I a s) (h : Failed groups a layout) :
    Abandoned s.report groups layout := by
  obtain ⟨e, he, hex⟩ := h
  refine ⟨e, he, ?_, ?_⟩
  · intro p hp
    rw [← hk.names, ← Attempts.tried_iff]
    exact hex.tried _ (List.mem_map_of_mem hp)
  · have hcount := hex.count
    simp only [hk.endorsed] at hcount
    exact hcount

/-- A response has a status below those of errors. -/
theorem status_of_response? {o : PeerOutcome} {x : PeerResponse} (h : o.response? = some x) :
    x.response.response.status < 400 := by
  unfold PeerOutcome.response? at h
  split at h
  · split at h
    · exact absurd h (by simp)
    · next r _ herror =>
      rw [← Option.some.inj h]
      rw [ProposalResponse.isError, decide_eq_true_eq] at herror
      exact Int32.not_le.mp herror
  · exact absurd h (by simp)

/-- The responses of the record are those that were reported. -/
theorem Reported.response (hk : Reported I a s) {selected : List String} {x : PeerResponse}
    (hx : x ∈ (a.results selected).responses) :
    x.response.response.status < 400 ∧
      ∃ o, lastOutcome s.report x.peer = some o ∧ o.response? = some x := by
  rw [hk.sound.responses_results] at hx
  obtain ⟨n, -, hn⟩ := List.mem_filterMap.mp hx
  obtain ⟨o, ho, hresponse⟩ := Option.bind_eq_some_iff.mp hn
  have hpeer : x.peer = n :=
    (Attempts.peer_of_response? hresponse).trans (hk.sound.peer_of_outcome? ho)
  exact ⟨status_of_response? hresponse, o, by rw [hpeer, ← hk.outcome, ho], hresponse⟩

/-- If all selected peers have endorsed, the responses come from them, in the order they were
asked. -/
theorem Reported.responders (hk : Reported I a s) {selected names : List String}
    (hsel : ∀ n, n ∈ selected ↔ n ∈ names) (hend : ∀ n ∈ names, a.endorsed n = true) :
    (a.results selected).responders = (firstAsked s.report).filter names.contains := by
  rw [ProposalResults.responders, hk.sound.responses_results,
    hk.sound.map_peer Attempts.peer_of_response?, List.filter_filter, hk.names]
  refine List.filter_congr ?_
  intro n _
  have hiff := hsel n
  rw [← List.contains_iff_mem, ← List.contains_iff_mem, ← Bool.eq_iff_iff] at hiff
  rw [hiff]
  cases hmem : names.contains n with
  | false => exact Bool.and_false _
  | true =>
      rw [Bool.and_true]
      exact hend n (List.contains_iff_mem.mp hmem)

/-- The results that the record gives for peers that were chosen are those that were
reported. -/
theorem Reported.reportsLayout (hk : Reported I a s) {chosen : List (List String)}
    (hchosen : Chosen groups a layout.entries chosen) {selected : List String}
    (hsel : ∀ n, n ∈ selected ↔ n ∈ chosen.flatten) :
    ReportsLayout s.report groups layout chosen (a.results selected) := by
  have hend : ∀ n ∈ chosen.flatten, a.endorsed n = true := by
    intro n hn
    obtain ⟨e, -, names, hgathered, hmem⟩ := hchosen.exists_gathered hn
    exact hgathered.endorsed n hmem
  have hresponders := hk.responders hsel hend
  have herrors := hk.errors selected
  have hnodup : (firstAsked s.report).Nodup := hk.names ▸ hk.sound.nodup
  refine ⟨?_, hresponders, ?_, fun x hx => hk.response hx, herrors, ?_, ?_⟩
  · exact List.Forall₂.imp (fun _ _ h => ⟨h.length, h.sublist⟩) hchosen
  · intro n hn
    rw [hk.sound.mem_responders]
    exact ⟨(hsel n).mpr hn, hend n hn⟩
  · -- Who was chosen has endorsed, who is an error has not.
    rw [hresponders, herrors.peers]
    refine (hnodup.filter _).append (hnodup.filter _) ?_
    intro n hn hn'
    have hmem := List.contains_iff_mem.mp (List.mem_filter.mp hn).2
    have hnot := (List.mem_filter.mp hn').2
    rw [← hk.endorsed, hend n hmem] at hnot
    exact Bool.false_ne_true hnot
  · intro n _ hlast hmem
    rw [hresponders, herrors.peers]
    refine ⟨?_, ?_⟩
    · intro hn
      exact hmem (List.contains_iff_mem.mp (List.mem_filter.mp hn).2)
    · intro hn
      have hnot := (List.mem_filter.mp hn).2
      rw [hlast] at hnot
      exact Bool.false_ne_true hnot

/-! ### Endorsing -/

/-- What endorsing by a plan answers tells what was reported. If it succeeds, the results are
those of some layout, and all layouts before it were given up. Otherwise all layouts were. -/
def Answers (groups : SortedMap String (List DiscoveredPeer))
    (layouts : List (SortedMap String UInt32)) (report : List (DiscoveredPeer × PeerOutcome)) :
    Except ActionError ProposalResults → Prop
  | .ok results => ∃ failed layout rest chosen, layouts = failed ++ layout :: rest ∧
      (∀ l ∈ failed, Abandoned report groups l) ∧
      ReportsLayout report groups layout chosen results
  | .error e => ∃ reason failures, e = .endorsementFailed reason failures ∧
      ReportsErrors report failures ∧ ∀ l ∈ layouts, Abandoned report groups l

/-- If outcomes report the peer that was asked, endorsing by a plan comes to its end, and what
it answers tells what was reported. -/
theorem Truthful.endorse_answers (h : Truthful ask elapse I) (plan : EndorsementPlan)
    (r : EndorseRequest) (shuffle : String → List DiscoveredPeer → List DiscoveredPeer) {s : σ}
    (hs : I s) :
    ∃ result s' report,
      plan.endorse (Reporting.ask ask) (Reporting.elapse elapse) r shuffle { world := s } =
        some (result, { world := s', report }) ∧ I s' ∧
      Answers (plan.prepareGroups r shuffle) plan.layouts report result := by
  obtain ⟨found, a, ⟨s', report⟩, hrun, hk, hdecides⟩ :=
    h.keeps_reported.endorse plan r shuffle False.elim (Reported.empty hs)
  refine ⟨answer a found, s', report, hrun, hk.world, ?_⟩
  cases found with
  | none => exact ⟨_, _, rfl, hk.errors [], fun l hl => hk.abandoned (hdecides l hl)⟩
  | some selected =>
      obtain ⟨failed, layout, rest, chosen, hlayouts, hfailed, hchosen, hsel⟩ := hdecides
      exact ⟨failed, layout, rest, chosen, hlayouts, fun l hl => hk.abandoned (hfailed l hl),
        hk.reportsLayout hchosen hsel⟩

/-- The report concerns neither peers nor time. -/
theorem simulates_of_reporting (ask : DiscoveredPeer → σ → (PeerOutcome × Nat) × σ)
    (elapse : Nat → σ → σ) :
    Simulates (fun _ => True) (fun s s' => s.world = s') (Reporting.ask ask)
      (Reporting.elapse elapse) ask elapse where
  answer := by
    rintro s _ p - rfl
    rfl
  asked := by
    rintro s _ p - rfl
    rfl
  elapsed := by
    rintro s _ ms rfl
    rfl

/-- Only candidates are asked, so what holds of them holds of all that are reported. -/
theorem forall_mem_report {candidate : DiscoveredPeer → Prop} {plan : EndorsementPlan}
    {r : EndorseRequest} {shuffle : String → List DiscoveredPeer → List DiscoveredPeer}
    (hcandidates : ∀ g, ∀ p ∈ candidatesOf (plan.prepareGroups r shuffle) g, candidate p)
    {s : σ} {s' : Reporting σ} {result : Except ActionError ProposalResults}
    (hrun : plan.endorse (Reporting.ask ask) (Reporting.elapse elapse) r shuffle { world := s } =
      some (result, s')) :
    ∀ e ∈ s'.report, candidate e.1 := by
  have hsim : Simulates candidate (fun s s' => s = s' ∧ ∀ e ∈ s.report, candidate e.1)
      (Reporting.ask ask) (Reporting.elapse elapse) (Reporting.ask ask)
      (Reporting.elapse elapse) := by
    refine ⟨?_, ?_, ?_⟩
    · rintro s _ p - ⟨rfl, -⟩
      rfl
    · rintro s _ p hp ⟨rfl, hs⟩
      refine ⟨rfl, ?_⟩
      intro e he
      rcases List.mem_append.mp he with he | he
      · exact hs e he
      · rw [List.mem_singleton.mp he]
        exact hp
    · rintro s _ ms ⟨rfl, hs⟩
      exact ⟨rfl, hs⟩
  obtain ⟨-, -, -, hall⟩ := hsim.endorse hcandidates ⟨rfl, List.forall_mem_nil _⟩ hrun
  exact hall

end Endorse

open Endorse

/-- Once its results are renewed, endorsing by a discovery with a plan comes to its end. What
it answers tells whom the search has asked, in which order, and what became of it. -/
theorem ChannelDiscovery.endorse_reported {d d₁ : ChannelDiscovery} {w w₁ : World}
    {results : DiscoveryResults} {plan : EndorsementPlan} (proposal : SignedProposal)
    (r : EndorseRequest) (shuffle : String → List DiscoveredPeer → List DiscoveredPeer)
    (hnamed : w.EndorsersNamed d.channel)
    (hrefreshed : d.refreshed w = (.ok results, d₁, w₁))
    (hplan : results.tree.plan = some plan) :
    ∃ result w₂ report,
      d.endorse proposal r shuffle w = some (result, d₁, w₂) ∧
      plan.endorse (Reporting.ask (World.askPeer d.channel proposal r.timeout))
        (Reporting.elapse World.elapse) r shuffle { world := w₁ } =
          some (result, { world := w₂, report }) ∧
      Answers (plan.prepareGroups r shuffle) plan.layouts report result := by
  obtain ⟨hnamed₁, hchannel⟩ := ChannelDiscovery.refreshed_endorsersNamed hnamed
  rw [hrefreshed] at hnamed₁ hchannel
  simp only at hnamed₁ hchannel
  obtain ⟨result, w₂, report, hrun, -, hanswers⟩ :=
    (hnamed₁.steady proposal r.timeout).truthful.endorse_answers plan r shuffle
      (World.Alike.refl w₁)
  refine ⟨result, w₂, report, ?_, hrun, hanswers⟩
  obtain ⟨_, hrun', rfl⟩ := (simulates_of_reporting (World.askPeer d.channel proposal r.timeout)
    World.elapse).endorse (fun _ _ _ => trivial) rfl hrun
  simp only [ChannelDiscovery.endorse, hrefreshed, hplan, hchannel, hrun']
  rfl

/-- A plan that requires one of two peers. -/
def EndorsementPlan.either : EndorsementPlan :=
  { chaincode := "cc"
    groups := (∅ : SortedMap String (List DiscoveredPeer)).insert "G1"
      [{ DiscoveredPeer.sample with name := "p0:1" }, .sample]
    layouts := [(∅ : SortedMap String UInt32).insert "G1" 1] }

/-- A discovery that keeps this plan. -/
def ChannelDiscovery.either : ChannelDiscovery :=
  { ChannelDiscovery.sample with
    results := some { tree := { plan := some .either }, timestamp := 0, serial := 1 } }

/-- The first peer is not on the channel, so the second one is asked. The first one is the only
error, the second one the only response. -/
theorem endorse_reported_either :
    ∃ results w report,
      ChannelDiscovery.either.endorse {} { sort := .random } (fun _ => id) World.sample =
        some (.ok results, ChannelDiscovery.either, w) ∧
      firstAsked report = ["p0:1", "p1:1"] ∧ results.responders = ["p1:1"] ∧
      results.errors.map PeerFailure.peer = ["p0:1"] ∧
      (results.responders ++ results.errors.map PeerFailure.peer).Nodup := by
  have hnamed : World.sample.EndorsersNamed ⟨0⟩ := by
    intro c hc name id hget
    obtain rfl := Option.some.inj hc
    simp only [SortedMap.get?_insert] at hget
    split at hget
    · next heq =>
      obtain rfl := Option.some.inj hget
      rw [heq]
      rfl
    · exact absurd hget.symm (Option.some_ne_none id)
  obtain ⟨result, w, report, hrun, hreported, hanswers⟩ :=
    ChannelDiscovery.endorse_reported (d := .either) {} { sort := .random } (fun _ => id) hnamed
      rfl rfl
  obtain ⟨a, s, hgroup, hresponders, herrors, hasked⟩ : ∃ a s,
      Attempts.satisfyGroup (Reporting.ask (World.askPeer ⟨0⟩ {} none))
        (Reporting.elapse World.elapse)
        (candidatesOf (EndorsementPlan.either.prepareGroups { sort := .random } (fun _ => id)) "G1")
        (1 : UInt32).toNat {} { world := .sample } =
          some (some ["p1:1"], a, s) ∧
      (a.results ["p1:1"]).responders = ["p1:1"] ∧
      (a.results ["p1:1"]).errors.map PeerFailure.peer = ["p0:1"] ∧
      firstAsked s.report = ["p0:1", "p1:1"] := by
    rw [Attempts.satisfyGroup, if_neg (by decide), if_neg (by decide), Attempts.satisfyGroup,
      if_neg (by decide), if_neg (by decide), Attempts.satisfyGroup, if_pos (by decide)]
    exact ⟨_, _, rfl, rfl, rfl, rfl⟩
  have hrun' := endorse_of_satisfyGroup .either { sort := .random } (fun _ => id) rfl hgroup
  obtain ⟨rfl, rfl⟩ := Prod.mk.inj (Option.some.inj (hreported.symm.trans hrun'))
  obtain ⟨failed, layout, rest, chosen, -, -, hlayout⟩ := hanswers
  exact ⟨_, w, report, hrun, hasked, hresponders, herrors, hlayout.distinct⟩

end LedgerClient
